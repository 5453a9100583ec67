import Entity.Number.Binary64

/-!
# Shortest decimals

A finite number is written with the fewest digits that read back as the same number and, of those,
the ones nearest to it.  Values from `10 ^ -4` up to `10 ^ 16` are written positionally, others with
an exponent of at least two digits.
-/

namespace Entity.Binary64

/-! ## The digits -/

/-- The exponent of the leading decimal digit of `n / d`, for positive `n` and `d`. -/
def leadingExponent (n d : Nat) : Int :=
  if d ≤ n then ((Nat.toDigits 10 (n / d)).length : Int) - 1
  else if d ≤ 10 * n then -1
  else -((Nat.toDigits 10 ((d + n - 1) / n - 1)).length : Int)

/-- The value `n / d` with the ends of the interval of reals that round to the same number, over one
denominator; `closed` says whether the ends belong to the interval. -/
structure Rounding where
  low : Nat
  value : Nat
  high : Nat
  den : Nat
  closed : Bool

/-- The interval of reals that round to `m * 2 ^ e`. -/
def rounding (m : Nat) (e : Int) : Rounding :=
  let below := if m = leadingBit ∧ minExponent < e then 1 else 2
  let q := e - 2
  let scale := powerOf 2 q
  { low := (4 * m - below) * scale
    value := 4 * m * scale
    high := (4 * m + 2) * scale
    den := powerOf 2 (-q)
    closed := m % 2 = 0 }

/-- `d * 10 ^ k` lies in the interval. -/
def Rounding.holds (r : Rounding) (d : Nat) (k : Int) : Bool :=
  let (a, b) := if 0 ≤ k then (d * powerOf 10 k * r.den, 1) else (d * r.den, powerOf 10 (-k))
  let low := r.low * b
  let high := r.high * b
  if r.closed then low ≤ a && a ≤ high else low < a && a < high

/-- The digits and exponent of the nearest decimal on the grid of `10 ^ k` that lies in the
interval; a tie goes to the even digit. -/
def Rounding.onGrid? (r : Rounding) (k : Int) : Option Nat :=
  let (n, d) :=
    if 0 ≤ k then (r.value, r.den * powerOf 10 k) else (r.value * powerOf 10 (-k), r.den)
  let down := n / d
  let up := down + 1
  let twice := 2 * (n % d)
  let first := if twice < d then down else if d < twice then up else down + down % 2
  let second := if first = down then up else down
  if r.holds first k then some first
  else if r.holds second k then some second
  else none

/-- The first grid, from the coarsest, that has a decimal in the interval. -/
def Rounding.search (r : Rounding) (leading : Int) : (grids : List Nat) → Nat × Int
  | [] => (0, 0)
  | n :: grids =>
    let k := leading - n
    match r.onGrid? k with
    | some d => (d, k)
    | none => r.search leading grids

/-- The shortest decimal `d * 10 ^ k` that reads back as the positive number `m * 2 ^ e`. -/
def shortest (m : Nat) (e : Int) : Nat × Int :=
  let r := rounding m e
  r.search (leadingExponent r.value r.den) (List.range 18)

/-! ## The layout -/

/-- The digits of a positive number without trailing zeros, and the place of the point: the value is
`0.d₁d₂… * 10 ^ point`. -/
def digitsAndPoint (m : Nat) (e : Int) : List Char × Int :=
  let (d, k) := shortest m e
  let digits := Nat.toDigits 10 d
  ((digits.reverse.dropWhile (· == '0')).reverse, k + digits.length)

/-- Positional notation, with at least one digit on either side of the point. -/
def positional (digits : List Char) (point : Int) : List Char :=
  if point ≤ 0 then '0' :: '.' :: (List.replicate (-point).toNat '0' ++ digits)
  else
    let whole := point.toNat
    if digits.length ≤ whole then
      digits ++ List.replicate (whole - digits.length) '0' ++ ['.', '0']
    else digits.take whole ++ '.' :: digits.drop whole

/-- Notation with an exponent that has a sign and at least two digits. -/
def exponential (digits : List Char) (point : Int) : List Char :=
  let e := point - 1
  let size := Nat.toDigits 10 e.natAbs
  let padded := if size.length < 2 then '0' :: size else size
  let fraction := if digits.length ≤ 1 then [] else '.' :: digits.drop 1
  digits.take 1 ++ fraction ++ 'e' :: (if e < 0 then '-' else '+') :: padded

/-- The names that a notation gives to the numbers that are not finite. -/
structure SpecialNames where
  infinity : String
  notNumber : String

/-- The shortest text of a number. -/
def toText (names : SpecialNames) : Binary64 → String
  | nan => names.notNumber
  | infinite s => (if s then "-" else "") ++ names.infinity
  | finite s m e =>
    let body :=
      if m = 0 then ['0', '.', '0']
      else
        let (digits, point) := digitsAndPoint m e
        if -4 < point ∧ point ≤ 16 then positional digits point else exponential digits point
    String.ofList (if s then '-' :: body else body)

/-- The names `inf` and `nan`. -/
def plainNames : SpecialNames := ⟨"inf", "nan"⟩

end Entity.Binary64
