import Entity.Number.Numeral
import Entity.Outcome
import Entity.Text.Split
import Entity.Time.Moment

/-!
# Intervals

The name of a schedule says how often it runs: `everyHour`, `every5Minutes`.  A schedule is due when
one interval has passed since its last run, or when it has never run.
-/

namespace Entity

open Entity.Text

/-- A length of time, in microseconds. -/
structure Duration where
  micros : Nat
  deriving DecidableEq, Repr, Inhabited

namespace Duration

/-- The whole days. -/
def days (d : Duration) : Nat := d.micros / Moment.day

/-- The whole seconds beside the days. -/
def seconds (d : Duration) : Nat := d.micros % Moment.day / Moment.second

/-- The microseconds beside the seconds. -/
def microseconds (d : Duration) : Nat := d.micros % Moment.second

/-- The longest time has this many days. -/
def dayLimit : Nat := 999999999

end Duration

namespace Interval

/-! ## Names -/

/-- The length of a unit of time; a month has thirty days. -/
def unit? (name : List Char) : Option Nat :=
  if name = "Second".toList then some Moment.second
  else if name = "Minute".toList then some Moment.minute
  else if name = "Hour".toList then some Moment.hour
  else if name = "Day".toList then some Moment.day
  else if name = "Week".toList then some (7 * Moment.day)
  else if name = "Month".toList then some (30 * Moment.day)
  else none

/-- A unit, alone or in the plural. -/
def unitOrPlural? (name : List Char) : Option Nat :=
  match unit? name with
  | some size => some size
  | none => if name.getLast? = some 's' then unit? name.dropLast else none

/-- The text without a line feed at its end. -/
def withoutFinalFeed (cs : List Char) : List Char :=
  if cs.getLast? = some '\n' then cs.dropLast else cs

/-- The digits of the count and the unit of an interval name. -/
def parts? (name : String) : Option (List Char × Nat) := do
  let body ← afterStart? "every".toList name.toList
  let size ← unitOrPlural? (withoutFinalFeed (body.dropWhile isDecimal))
  return (body.takeWhile isDecimal, size)

/-- A number of units, if that is not too long a time. -/
def ofCount (count : Int) (size : Nat) : Except Failure (Option Duration) :=
  if count < 1 then .ok none
  else
    let d : Duration := ⟨count.toNat * size⟩
    if Duration.dayLimit < d.days then .error (.fault .overflow "date value out of range")
    else .ok (some d)

/-- The interval that a name stands for; a name without a known unit stands for none. -/
def ofName (name : String) : Except Failure (Option Duration) :=
  match parts? name with
  | none => .ok none
  | some ([], size) => ofCount 1 size
  | some (digits, size) => match Numeral.int? digits with
    | some count => ofCount count size
    | none => .error (.fault .badValue "Exceeds the limit for integer string conversion")

/-! ## Due times -/

/-- At least one interval has passed since the last run. -/
def hasPassed (interval : Duration) (lastRun now : Moment) : Bool :=
  lastRun.micros + interval.micros ≤ now.micros

/-- The schedule with a name is due; a name that stands for no interval never is. -/
def isDue (name : String) (lastRun : Option Moment) (now : Moment) : Outcome Bool := do
  match ← ofName name with
  | none =>
    Outcome.warn (.unknownInterval name)
    return false
  | some interval =>
    match lastRun with
    | none => return true
    | some last => return hasPassed interval last now

end Interval

end Entity
