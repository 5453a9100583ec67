import Entity.Text.Split
import Entity.Value

/-!
# Instances

The short name of an instance and the change that an update makes.
-/

namespace Entity

open Entity.Text

/-- The text after the last slash. -/
def afterLastSlash (cs : List Char) : List Char :=
  (cs.reverse.takeWhile (· != '/')).reverse

/-- The last segment of an identity, slashes at the end left out. -/
def lastSegment (id : String) : String :=
  String.ofList (afterLastSlash (dropEndWhile (· == '/') id.toList))

namespace Instance

/-- The `slug` of the data, or else the last segment of the identity. -/
def slug (i : Instance) : String :=
  match Entries.get? "slug" i.data with
  | some (.text s) => if s.isEmpty then lastSegment i.id else s
  | _ => lastSegment i.id

/-- The value of a key, or a default. -/
def valueOr (i : Instance) (key : String) (default : Value) : Value :=
  (Entries.get? key i.data).getD default

/-- The value of a key; nothing if it is absent. -/
def value (i : Instance) (key : String) : Value := i.valueOr key .null

end Instance

/-- What handlers of updates are given: the instance before, if there was one, and after. -/
structure Change where
  previous : Option Instance
  current : Instance
  deriving Inhabited

/-- The instance as a value, or nothing. -/
def Instance.ofOption (i : Option Instance) : Value := (i.map Instance.toValue).getD .null

/-- The change as a value. -/
def Change.toValue (c : Change) : Value :=
  .record .change [("previous", Instance.ofOption c.previous), ("current", c.current.toValue)]

end Entity
