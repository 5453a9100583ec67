import Entity.Number.Binary64
import Entity.Text.Blank
import Entity.Text.Decimal

/-!
# Reading numbers

An integer or a real number written in text, with blanks around it, digits of any script and single
low lines between digits.
-/

namespace Entity.Numeral

open Entity.Text

/-- The largest number of digits that an integer in text may have. -/
def digitLimit : Nat := 4300

/-! ## Integers -/

/-- The digits at the start of a text that has a digit first: digits with single `_` between them,
and the rest. -/
def digitRun : List Char → List Nat × List Char
  | [] => ([], [])
  | c :: cs =>
    match decimalValue? c with
    | some d =>
      let (ds, rest) := digitRun cs
      (d :: ds, rest)
    | none =>
      match c, cs with
      | '_', c' :: cs' =>
        match decimalValue? c' with
        | some d =>
          let (ds, rest) := digitRun cs'
          (d :: ds, rest)
        | none => ([], c :: cs)
      | _, _ => ([], c :: cs)

/-- Digits at the start of a text; a low line may stand between two digits only. -/
def digits (cs : List Char) : List Nat × List Char :=
  match cs with
  | '_' :: _ => ([], cs)
  | _ => digitRun cs

/-- The number that decimal digits denote. -/
def ofDigits (ds : List Nat) : Nat := ds.foldl (fun n d => 10 * n + d) 0

/-- A sign, and the rest. -/
def sign : List Char → Bool × List Char
  | '-' :: cs => (true, cs)
  | '+' :: cs => (false, cs)
  | cs => (false, cs)

/-- The integer that a text denotes. -/
def int? (cs : List Char) : Option Int :=
  let (negative, body) := sign (trim cs)
  match digits body with
  | ([], _) => none
  | (ds, []) =>
    if digitLimit < ds.length then none
    else some (if negative then -(ofDigits ds : Int) else ofDigits ds)
  | (_, _ :: _) => none

/-! ## Real numbers -/

/-- The exponent after `e` or `E`, and the rest; without one the exponent is zero. -/
def exponent? : List Char → Option Int × List Char
  | c :: cs =>
    if c = 'e' ∨ c = 'E' then
      let (negative, body) := sign cs
      match digits body with
      | ([], _) => (none, c :: cs)
      | (ds, rest) => (some (if negative then -(ofDigits ds : Int) else ofDigits ds), rest)
    else (none, c :: cs)
  | [] => (none, [])

/-- The digits after a point, and the rest. -/
def fraction : List Char → List Nat × List Char
  | '.' :: cs => digits cs
  | cs => ([], cs)

/-- Words for numbers that are not finite, in lower case. -/
def special? (negative : Bool) (word : List Char) : Option Binary64 :=
  let word := word.map Char.toLower
  if word = "inf".toList ∨ word = "infinity".toList then some (.infinite negative)
  else if word = "nan".toList then some .nan
  else none

/-- The floating-point number that a text denotes. -/
def float? (cs : List Char) : Option Binary64 :=
  let (negative, body) := sign (trim cs)
  match special? negative body with
  | some x => some x
  | none =>
    let (whole, afterWhole) := digits body
    let (part, afterPart) := fraction afterWhole
    if whole.isEmpty && part.isEmpty then none
    else
      let (e, rest) := exponent? afterPart
      if rest.isEmpty then
        some (.ofDecimal negative (ofDigits (whole ++ part)) (e.getD 0 - part.length))
      else none

end Entity.Numeral
