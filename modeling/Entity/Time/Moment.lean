import Entity.Time.Calendar
import Entity.Text.Decimal

/-!
# Moments

A moment is a time without a zone, to the microsecond.  Moments are written with four digits for the
year and two for every other part, and six for the fraction of a second when there is one.
-/

namespace Entity

/-- A moment, as microseconds since the start of year 1. -/
structure Moment where
  micros : Nat
  deriving DecidableEq, Repr, Inhabited, Ord

namespace Moment

/-! ## Units -/

/-- Microseconds in a second. -/
def second : Nat := 1000000

/-- Microseconds in a minute. -/
def minute : Nat := 60 * second

/-- Microseconds in an hour. -/
def hour : Nat := 60 * minute

/-- Microseconds in a day. -/
def day : Nat := 24 * hour

/-- The end of time: the start of year 10000. -/
def limit : Nat := Calendar.dayLimit * day

/-! ## Parts -/

/-- The calendar day. -/
def date (m : Moment) : Date := ⟨m.micros / day⟩

/-- The hour of the day. -/
def hourOfDay (m : Moment) : Nat := m.micros / hour % 24

/-- The minute of the hour. -/
def minuteOfHour (m : Moment) : Nat := m.micros / minute % 60

/-- The second of the minute. -/
def secondOfMinute (m : Moment) : Nat := m.micros / second % 60

/-- The microsecond of the second. -/
def microOfSecond (m : Moment) : Nat := m.micros % second

/-- The start of the minute. -/
def floorMinute (m : Moment) : Moment := ⟨m.micros / minute * minute⟩

/-- The moment at a time of a day. -/
def ofParts (d : Date) (h min s micro : Nat) : Moment :=
  ⟨d.day * day + h * hour + min * minute + s * second + micro⟩

end Moment

/-! ## Writing -/

/-- A number with zeros before it, at least `width` digits long. -/
def padded (width n : Nat) : String :=
  let digits := Nat.toDigits 10 n
  String.ofList (List.replicate (width - digits.length) '0' ++ digits)

/-- Year, month and day, with hyphens. -/
def Date.toText (d : Date) : String :=
  let (y, m, n) := d.parts
  padded 4 y ++ "-" ++ padded 2 m ++ "-" ++ padded 2 n

/-- The time of day, with colons. -/
def Moment.clock (m : Moment) : String :=
  let base := padded 2 m.hourOfDay ++ ":" ++ padded 2 m.minuteOfHour ++ ":" ++
    padded 2 m.secondOfMinute
  if m.microOfSecond = 0 then base else base ++ "." ++ padded 6 m.microOfSecond

/-- Day and time of day, with `sep` between them. -/
def Moment.toText (sep : String) (m : Moment) : String := m.date.toText ++ sep ++ m.clock

/-! ## Reading -/

/-- Exactly `n` ASCII digits, and the rest. -/
def fixedDigits? (n : Nat) (cs : List Char) : Option (Nat × List Char) :=
  let ds := cs.take n
  if ds.length = n ∧ ds.all Char.isDigit then
    some (ds.foldl (fun k c => 10 * k + (c.toNat - '0'.toNat)) 0, cs.drop n)
  else none

/-- A given character, and the rest. -/
def literal? (c : Char) : List Char → Option (List Char)
  | c' :: cs => if c' = c then some cs else none
  | [] => none

/-- A day at the start of a text. -/
def Date.read? (cs : List Char) : Option (Date × List Char) := do
  let (y, cs) ← fixedDigits? 4 cs
  let cs ← literal? '-' cs
  let (m, cs) ← fixedDigits? 2 cs
  let cs ← literal? '-' cs
  let (d, cs) ← fixedDigits? 2 cs
  let date ← Date.ofParts? y m d
  return (date, cs)

/-- The day that a text denotes. -/
def Date.ofText? (s : String) : Option Date :=
  match Date.read? s.toList with
  | some (d, []) => some d
  | _ => none

/-- The fraction of a second after a point, in microseconds. -/
def readFraction? : List Char → Option Nat
  | [] => some 0
  | '.' :: cs =>
    let ds := cs.take 6
    if cs.isEmpty || !cs.all Char.isDigit then none
    else (fixedDigits? 6 (ds ++ List.replicate (6 - ds.length) '0')).map Prod.fst
  | _ => none

/-- The moment that a text denotes: a day, any one character, and a time of day to the minute,
second or fraction of a second. -/
def Moment.ofText? (s : String) : Option Moment := do
  let (d, cs) ← Date.read? s.toList
  match cs with
  | [] => return .ofParts d 0 0 0 0
  | _ :: cs =>
    let (h, cs) ← fixedDigits? 2 cs
    let (m, cs) ← match cs with
      | [] => some (0, [])
      | _ => (literal? ':' cs).bind (fixedDigits? 2)
    let (sec, cs) ← match cs with
      | [] => some (0, [])
      | _ => (literal? ':' cs).bind (fixedDigits? 2)
    let micro ← readFraction? cs
    if h < 24 ∧ m < 60 ∧ sec < 60 then some (.ofParts d h m sec micro) else none

end Entity
