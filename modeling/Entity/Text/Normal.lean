import Entity.Text.Normal.Composite
import Entity.Text.Normal.Form
import Entity.Text.Normal.MarkClass

/-!
# Normal form of names

A name can be written in several ways: in letters of another width, with a ligature, with an accent
in the letter or after it.  Ways that mean the same have one normal form: plain letters, marks in
order, and a letter and its mark as one character.  Main statements: ASCII text is its own normal
form, and putting marks in order moves no character out of the text.
-/

namespace Entity.Text

/-- A character as a letter and the marks after it; `depth` bounds the number of marks. -/
def decomposed : (depth : Nat) → Char → List Char
  | 0, c => [c]
  | depth + 1, c => match parts? c with
    | some (letter, mark) => decomposed depth letter ++ [mark]
    | none => [c]

/-- The most marks of one character. -/
def markLimit : Nat := 4

/-- A mark before text: behind the marks of lower class at the start of the text. -/
def placeMark (c : Char) : List Char → List Char
  | [] => [c]
  | d :: ds =>
    if 0 < markClass d ∧ markClass d < markClass c then d :: placeMark c ds else c :: d :: ds

/-- Text with the marks of every letter in order. -/
def orderMarks (cs : List Char) : List Char := cs.foldr placeMark []

/-- Text with every letter and its marks put together; `letter` is the last letter, `kept` are its
marks that stand alone, the last first. -/
def composeFrom (letter : Char) (kept : List Char) : List Char → List Char
  | [] => letter :: kept.reverse
  | c :: cs =>
    let reached := match kept with
      | [] => true
      | d :: _ => markClass d < markClass c
    match if reached then composed? letter c else none with
    | some whole => composeFrom whole kept cs
    | none =>
      if markClass c = 0 then letter :: (kept.reverse ++ composeFrom c [] cs)
      else composeFrom letter (c :: kept) cs

/-- Text with every letter and its marks put together. -/
def compose : List Char → List Char
  | [] => []
  | c :: cs => composeFrom c [] cs

/-- The normal form of a name. -/
def normal (cs : List Char) : List Char :=
  if cs.all fun c => c.val < 128 then cs
  else compose (orderMarks ((cs.flatMap plainForm).flatMap (decomposed markLimit)))

/-- The normal form of a name. -/
def normalName (s : String) : String := String.ofList (normal s.toList)

/-! ## Laws -/

theorem normal_of_ascii {cs : List Char} (h : (cs.all fun c => c.val < 128) = true) :
    normal cs = cs := by
  simp [normal, h]

theorem placeMark_perm (c : Char) (cs : List Char) : (placeMark c cs).Perm (c :: cs) := by
  induction cs with
  | nil => exact .refl _
  | cons d ds ih =>
    unfold placeMark
    split
    · exact (ih.cons d).trans (.swap c d ds)
    · exact .refl _

theorem orderMarks_perm (cs : List Char) : (orderMarks cs).Perm cs := by
  induction cs with
  | nil => exact .refl _
  | cons c cs ih => exact (placeMark_perm c _).trans (ih.cons c)

end Entity.Text
