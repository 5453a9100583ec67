import Entity.Number.Natural

/-!
# The calendar

Days of the years 1 to 9999 in the Gregorian calendar, counted from 0 for the first day of year 1.
-/

namespace Entity

/-- A calendar day, as the number of days since the first day of year 1. -/
structure Date where
  day : Nat
  deriving DecidableEq, Repr, Inhabited

namespace Calendar

/-- A year of 366 days. -/
def isLeap (year : Nat) : Bool := year % 4 == 0 && (year % 100 != 0 || year % 400 == 0)

/-- The number of days in a month. -/
def daysIn (year month : Nat) : Nat :=
  match month with
  | 2 => if isLeap year then 29 else 28
  | 4 | 6 | 9 | 11 => 30
  | _ => 31

/-- The number of days before the first day of a year. -/
def daysBeforeYear (year : Nat) : Nat :=
  let y := year - 1
  365 * y + y / 4 - y / 100 + y / 400

/-- The number of days of a year before a month. -/
def daysBeforeMonth (year month : Nat) : Nat :=
  total ((List.range' 1 (month - 1)).map (daysIn year))

/-- The number of days before year 10000. -/
def dayLimit : Nat := daysBeforeYear 10000

/-- The year of a day, and the day's place in the year. -/
def yearAndRest (day : Nat) : Nat × Nat :=
  let n400 := day / 146097
  let r400 := day % 146097
  let n100 := min 3 (r400 / 36524)
  let r100 := r400 - 36524 * n100
  let n4 := r100 / 1461
  let r4 := r100 % 1461
  let n1 := min 3 (r4 / 365)
  (400 * n400 + 100 * n100 + 4 * n4 + n1 + 1, r4 - 365 * n1)

/-- The month of a day and the day's place in the month, looked for in the given months. -/
def monthAndRest (year : Nat) (rest : Nat) : List Nat → Nat × Nat
  | [] => (12, rest)
  | month :: months =>
    if rest < daysIn year month then (month, rest)
    else monthAndRest year (rest - daysIn year month) months

end Calendar

namespace Date

open Calendar

/-- The day with a year, month and day of the month, if there is one. -/
def ofParts? (year month day : Nat) : Option Date :=
  if 1 ≤ year ∧ year ≤ 9999 ∧ 1 ≤ month ∧ month ≤ 12 ∧ 1 ≤ day ∧ day ≤ daysIn year month then
    some ⟨daysBeforeYear year + daysBeforeMonth year month + (day - 1)⟩
  else none

/-- The year, the month and the day of the month. -/
def parts (d : Date) : Nat × Nat × Nat :=
  let (year, rest) := yearAndRest d.day
  let (month, rest) := monthAndRest year rest (List.range' 1 12)
  (year, month, rest + 1)

/-- The day of the week, from 0 for Sunday. -/
def weekday (d : Date) : Nat := (d.day + 1) % 7

end Date

end Entity
