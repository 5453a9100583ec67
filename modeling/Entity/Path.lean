import Entity.Text.Split

/-!
# Paths

A place in a tree of files, as text and as the names on the way.  Single dots and repeated slashes
do not count; going up is kept, since a name on the way may stand for a place elsewhere.
-/

namespace Entity

open Entity.Text

/-- A place in a tree of files. -/
structure Path where
  /-- The slashes that the place is counted from; none for a place below the present one. -/
  root : String
  names : List String
  deriving DecidableEq, Repr, Inhabited

namespace Path

/-- The slashes that a text begins with: two are kept, and any other number stands for one. -/
def rootOf (cs : List Char) : String :=
  match (cs.takeWhile (· == '/')).length with
  | 0 => ""
  | 2 => "//"
  | _ => "/"

/-- A name that leads somewhere else. -/
def isStep (name : String) : Bool := !name.isEmpty && name != "."

/-- The path that a text denotes. -/
def ofText (text : String) : Path := ⟨rootOf text.toList, (pieces '/' text).filter isStep⟩

/-- The shortest text of a path. -/
def toText (p : Path) : String :=
  if p.root.isEmpty && p.names.isEmpty then "." else p.root ++ join "/" p.names

/-- The path does not depend on the present place. -/
def isAbsolute (p : Path) : Bool := !p.root.isEmpty

/-- A path that is meant below another one. -/
def below (base p : Path) : Path :=
  if p.isAbsolute then p else ⟨base.root, base.names ++ p.names⟩

/-! ## Laws -/

/-- An absolute path stays where it is. -/
theorem below_of_isAbsolute (base : Path) {p : Path} (h : p.isAbsolute = true) :
    base.below p = p := by
  simp [below, h]

/-- Paths below paths can be put together in any order. -/
theorem below_assoc (a b c : Path) : a.below (b.below c) = (a.below b).below c := by
  unfold below isAbsolute
  by_cases hc : c.root.isEmpty <;> by_cases hb : b.root.isEmpty <;> simp [hb, hc]

end Path

end Entity
