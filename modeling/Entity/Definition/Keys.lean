import Entity.Number.Numeral
import Entity.Text.Split

/-!
# Keys of definitions

A key that holds a function names a migration, an event, a schedule or a cron expression by its
form; any other key names a field.
-/

namespace Entity

open Entity.Text

/-- What the form of a key says about a function under it. -/
inductive KeyForm where
  | migration (digits : List Char)
  | event
  | schedule
  | cron
  | field
  deriving DecidableEq, Repr, Inhabited

/-- The digits after `migrate.`; one line end may follow them. -/
def migrationDigits? (cs : List Char) : Option (List Char) :=
  match afterStart? "migrate.".toList cs with
  | some rest =>
    let digits := rest.takeWhile isDecimal
    let after := rest.dropWhile isDecimal
    if digits.isEmpty || !(after == [] || after == ['\n']) then none else some digits
  | none => none

/-- The word `on` with a capital after it. -/
def isEventKey (cs : List Char) : Bool :=
  match cs with
  | 'o' :: 'n' :: c :: _ => c.isUpper
  | _ => false

/-- The word `every` with a capital or an ASCII digit after it. -/
def isScheduleKey (cs : List Char) : Bool :=
  match afterStart? "every".toList cs with
  | some (c :: _) => c.isUpper || c.isDigit
  | _ => false

/-- A field of a cron expression: a star, a star with a step, or digits, commas, hyphens and
slashes. -/
def isCronWord (cs : List Char) : Bool :=
  match cs with
  | ['*'] => true
  | '*' :: '/' :: step => !step.isEmpty && step.all isDecimal
  | _ => !cs.isEmpty && cs.all fun c => isDecimal c || c == ',' || c == '-' || c == '/'

/-- Five fields of a cron expression with blanks between them. -/
def isCronKey (cs : List Char) : Bool :=
  let fields := words cs
  fields.length == 5 && fields.all isCronWord

/-- The key has the form of a cron expression. -/
def isCronExpression (key : String) : Bool := isCronKey key.toList

/-- The form of a key. -/
def KeyForm.ofKey (key : String) : KeyForm :=
  let cs := key.toList
  match migrationDigits? cs with
  | some digits => .migration digits
  | none =>
    if isEventKey cs then .event
    else if isScheduleKey cs then .schedule
    else if isCronKey cs then .cron
    else .field

end Entity
