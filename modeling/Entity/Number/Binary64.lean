import Entity.Number.Natural

/-!
# Binary floating point

Numbers with 53 significant bits and exponents from -1074, infinities and a not-a-number, as exact
data: every operation computes the exact rational result and rounds it once, to the nearest number
and, of two equally near, to the even one.
-/

namespace Entity

/-- A binary floating-point number; `finite negative m e` is `m * 2 ^ e` with its sign. -/
inductive Binary64 where
  | nan
  | infinite (negative : Bool)
  | finite (negative : Bool) (significand : Nat) (exponent : Int)
  deriving DecidableEq, Repr, Inhabited

namespace Binary64

/-- The smallest exponent. -/
def minExponent : Int := -1074

/-- The largest exponent. -/
def maxExponent : Int := 971

/-- The value of the leading one of 53 significant bits. -/
def leadingBit : Nat := powerOf 2 52

/-- Zero with a sign. -/
def zero (negative : Bool) : Binary64 := .finite negative 0 minExponent

/-! ## Rounding -/

/-- The integer nearest to `n / d`; a tie goes to the even neighbour. -/
def roundDiv (n d : Nat) : Nat :=
  let q := n / d
  let r := n % d
  if 2 * r < d then q else if d < 2 * r then q + 1 else q + q % 2

/-- `n / d` divided by `2 ^ e`, as a quotient of natural numbers. -/
def scaleDown (n d : Nat) (e : Int) : Nat × Nat :=
  if 0 ≤ e then (n, d * powerOf 2 e) else (n * powerOf 2 (-e), d)

/-- The number nearest to `± n / d`. -/
def ofRatio (negative : Bool) (n d : Nat) : Binary64 :=
  if n = 0 ∨ d = 0 then zero negative
  else
    let guess : Int := (n.log2 : Int) - d.log2 - 52
    let (gn, gd) := scaleDown n d guess
    let e := max (if gn < leadingBit * gd then guess - 1 else guess) minExponent
    let (sn, sd) := scaleDown n d e
    let m := roundDiv sn sd
    let (m, e) := if m = 2 * leadingBit then (leadingBit, e + 1) else (m, e)
    if maxExponent < e then .infinite negative else .finite negative m e

/-- The number nearest to `± digits * 10 ^ exponent`. -/
def ofDecimal (negative : Bool) (digits : Nat) (exponent : Int) : Binary64 :=
  if digits = 0 then zero negative
  else
    let leading : Int := exponent + (Nat.toDigits 10 digits).length
    if 400 < leading then .infinite negative
    else if leading < -400 then zero negative
    else if 0 ≤ exponent then ofRatio negative (digits * powerOf 10 exponent) 1
    else ofRatio negative digits (powerOf 10 (-exponent))

/-- The number nearest to an integer, unless that is infinite. -/
def ofInt? (n : Int) : Option Binary64 :=
  match ofRatio (n < 0) n.natAbs 1 with
  | .finite s m e => some (.finite s m e)
  | _ => none

/-! ## Reading the exact value -/

/-- The signed significand. -/
def signed (negative : Bool) (m : Nat) : Int := if negative then -(m : Int) else m

/-- `m * 2 ^ e` for signed `m`, in units of `2 ^ base` with `base ≤ e`. -/
def inUnits (m : Int) (e base : Int) : Int := m * powerOf 2 (e - base)

/-- The integer part of a finite number, toward zero. -/
def truncate? : Binary64 → Option Int
  | finite s m e =>
    let size : Nat := if 0 ≤ e then m * powerOf 2 e else m / powerOf 2 (-e)
    some (signed s size)
  | _ => none

/-- A finite number without a fractional part. -/
def isIntegral : Binary64 → Bool
  | finite _ m e => 0 ≤ e || m % powerOf 2 (-e) == 0
  | _ => false

/-! ## Order -/

/-- The order of two finite values `m * 2 ^ e`. -/
def compareFinite (m e m' e' : Int) : Ordering :=
  let base := min e e'
  compare (inUnits m e base) (inUnits m' e' base)

/-- The order of two numbers; nothing compares with a not-a-number. -/
def compare? : Binary64 → Binary64 → Option Ordering
  | nan, _ => none
  | _, nan => none
  | infinite s, infinite s' => some (compare s' s)
  | infinite s, finite _ _ _ => some (if s then .lt else .gt)
  | finite _ _ _, infinite s => some (if s then .gt else .lt)
  | finite s m e, finite s' m' e' => some (compareFinite (signed s m) e (signed s' m') e')

/-- The order of a number and an integer, compared exactly. -/
def compareInt? : Binary64 → Int → Option Ordering
  | nan, _ => none
  | infinite s, _ => some (if s then .lt else .gt)
  | finite s m e, n => some (compareFinite (signed s m) e n 0)

/-! ## Arithmetic -/

/-- The number nearest to `m * 2 ^ e` for signed `m`; a zero takes the given sign. -/
def ofScaled (m e : Int) (zeroNegative : Bool) : Binary64 :=
  if m = 0 then zero zeroNegative
  else if 0 ≤ e then ofRatio (m < 0) (m.natAbs * powerOf 2 e) 1
  else ofRatio (m < 0) m.natAbs (powerOf 2 (-e))

/-- Addition. -/
def add : Binary64 → Binary64 → Binary64
  | nan, _ => nan
  | _, nan => nan
  | infinite s, infinite s' => if s = s' then infinite s else nan
  | infinite s, _ => infinite s
  | _, infinite s => infinite s
  | finite s m e, finite s' m' e' =>
    let base := min e e'
    ofScaled (inUnits (signed s m) e base + inUnits (signed s' m') e' base) base (s && s')

/-- Multiplication. -/
def mul : Binary64 → Binary64 → Binary64
  | nan, _ => nan
  | _, nan => nan
  | infinite s, infinite s' => infinite (s != s')
  | infinite s, finite s' m _ => if m = 0 then nan else infinite (s != s')
  | finite s m _, infinite s' => if m = 0 then nan else infinite (s != s')
  | finite s m e, finite s' m' e' =>
    ofScaled (signed (s != s') (m * m')) (e + e') (s != s')

/-- Division of two integers, rounded once; the divisor is not zero. -/
def divInt (a b : Int) : Binary64 := ofRatio ((a < 0) != (b < 0)) a.natAbs b.natAbs

/-- Division by a number that is not zero. -/
def div : Binary64 → Binary64 → Binary64
  | nan, _ => nan
  | _, nan => nan
  | infinite _, infinite _ => nan
  | infinite s, finite s' _ _ => infinite (s != s')
  | finite s _ _, infinite s' => zero (s != s')
  | finite s m e, finite s' m' e' =>
    let base := min e e'
    ofRatio (s != s') (m * powerOf 2 (e - base)) (m' * powerOf 2 (e' - base))

/-- Zero of either sign. -/
def isZero : Binary64 → Bool
  | finite _ m _ => m == 0
  | _ => false

end Binary64

end Entity
