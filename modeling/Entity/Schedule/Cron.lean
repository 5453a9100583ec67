import Entity.Number.Numeral
import Entity.Outcome
import Entity.Text.Split
import Entity.Time.Moment

/-!
# Cron expressions

A cron expression has five fields: minute, hour, day of the month, month and day of the week.  A
field is a list of items, and a moment matches when each of its parts matches an item of its
field.  A number is only read when the match depends on it.
-/

namespace Entity.Cron

open Entity.Text

/-! ## Items -/

/-- An item of a field, with its numbers as they are written. -/
inductive Item where
  /-- Every value. -/
  | every
  /-- No value. -/
  | nothing
  | exactly (n : List Char)
  | range (low high : List Char)
  /-- Every `step`-th value from the least on. -/
  | everyStep (step : List Char)
  /-- Every `step`-th value of a range. -/
  | rangeStep (low high step : List Char)
  /-- Every `step`-th value from `low` to the greatest. -/
  | fromStep (low step : List Char)
  deriving DecidableEq, Repr, Inhabited

/-- The item with a step that a text stands for. -/
def Item.ofStepText (base step : List Char) : Item :=
  if base = ['*'] then everyStep step
  else match cutAt? '-' base with
    | some (low, high) => rangeStep low high step
    | none => fromStep base step

/-- The item that a text stands for. -/
def Item.ofText (cs : List Char) : Item :=
  match cutAt? '/' cs with
  | some (base, step) => ofStepText base step
  | none =>
    if cs = ['*'] then every
    else match cutAt? '-' cs with
      | some (low, high) => range low high
      | none => if cs.isEmpty then nothing else exactly cs

/-- The value lies in a range; the upper end is only read when the lower end allows the value. -/
def inRange? (low high : List Char) (value : Int) : Option Bool := do
  let first ← Numeral.int? low
  if value < first then return false
  let last ← Numeral.int? high
  return value ≤ last

/-- The value is a number of steps away from another. -/
def onStep (start step value : Int) : Bool := (value - start) % step == 0

/-- The value matches an item of a field whose values go from `least` to `greatest`; nothing if a
number cannot be read. -/
def Item.matches? (least greatest value : Int) : Item → Option Bool
  | every => some true
  | nothing => some false
  | exactly n => (Numeral.int? n).map fun n => value == n
  | range low high => inRange? low high value
  | everyStep step => (Numeral.int? step).map fun s => 0 < s && onStep least s value
  | rangeStep low high step => do
    let s ← Numeral.int? step
    if s ≤ 0 then return false
    let inside ← inRange? low high value
    let first ← Numeral.int? low
    return inside && onStep first s value
  | fromStep low step => do
    let s ← Numeral.int? step
    if s ≤ 0 then return false
    let first ← Numeral.int? low
    return first ≤ value && value ≤ greatest && onStep first s value

/-! ## Fields -/

/-- The value matches one of the items; items after a match are not looked at. -/
def matchesAny? (least greatest value : Int) : List Item → Option Bool
  | [] => some false
  | item :: items => do
    if ← item.matches? least greatest value then return true
    else matchesAny? least greatest value items

/-- The items of a field. -/
def itemsOf (field : List Char) : List Item := (splitAt ',' field).map Item.ofText

/-- The value matches a field. -/
def fieldMatches? (field : List Char) (least greatest value : Int) : Option Bool :=
  matchesAny? least greatest value (itemsOf field)

/-- The fault of a number that cannot be read. -/
def badNumber : Failure := .fault .badValue "invalid literal for an integer"

/-- The value matches a field, or a number of the field cannot be read. -/
def fieldMatches (field : String) (value least greatest : Int) : Except Failure Bool :=
  match fieldMatches? field.toList least greatest value with
  | some b => .ok b
  | none => .error badNumber

/-! ## Expressions -/

/-- The parts of a moment that the five fields look at, each with its least and greatest value. -/
def components (m : Moment) : List (Int × Int × Int) :=
  let (_, month, day) := m.date.parts
  [(0, 59, m.minuteOfHour), (0, 23, m.hourOfDay), (1, 31, day), (1, 12, month),
    (0, 6, m.date.weekday)]

/-- Every component matches its field; fields after one that does not match are not looked at. -/
def matchesAll? : List (List Char) → List (Int × Int × Int) → Option Bool
  | field :: fields, (least, greatest, value) :: components => do
    if ← fieldMatches? field least greatest value then matchesAll? fields components
    else return false
  | _, _ => some true

/-- The moment, to the minute, matches the expression. -/
def isMatch (expression : String) (m : Moment) : Outcome Bool :=
  let fields := words expression.toList
  if fields.length ≠ 5 then do
    Outcome.warn (.cronShape expression)
    return false
  else match matchesAll? fields (components m) with
    | some b => return b
    | none => do
      Outcome.warn (.cronField expression)
      return false

/-! ## Windows -/

/-- The time that a window reaches back. -/
def lookback : Nat := 24 * Moment.hour

/-- The fault of a moment outside the calendar. -/
def outOfCalendar : Failure := .fault .overflow "date value out of range"

/-- The expression matches at one of `count` whole minutes from a moment on. -/
def anyMatch (expression : String) (count : Nat) (m : Moment) : Outcome Bool :=
  match count with
  | 0 => return false
  | count + 1 => do
    if ← isMatch expression m then return true
    else anyMatch expression count ⟨m.micros + Moment.minute⟩

/-- The whole minutes from `start` to `stop`, both included. -/
def minutesBetween (start stop : Moment) : Nat :=
  (stop.micros + Moment.minute - start.micros) / Moment.minute

/-- The expression matches at a whole minute after the last run and not after now, within the
lookback; without a last run only the current minute counts. -/
def isDue (expression : String) (lastRun : Option Moment) (now : Moment) : Outcome Bool := do
  let stop := now.floorMinute
  match lastRun with
  | none => isMatch expression stop
  | some last =>
    let next := last.floorMinute.micros + Moment.minute
    if Moment.limit ≤ next ∨ stop.micros < lookback then Outcome.fail outOfCalendar
    else
      let start : Moment := ⟨max next (stop.micros - lookback)⟩
      if ← anyMatch expression (minutesBetween start stop) start then return true
      else if start.micros ≤ stop.micros ∧ Moment.limit ≤ stop.micros + Moment.minute then
        Outcome.fail outOfCalendar
      else return false

end Entity.Cron
