/-!
# Powers and totals

Powers with an integer as their exponent, and the sum of many natural numbers.
-/

namespace Entity

/-- `b` to the power of an exponent; a negative exponent counts as zero. -/
def powerOf (b : Nat) (e : Int) : Nat := Nat.pow b e.toNat

/-- The sum of numbers. -/
def total : List Nat → Nat
  | [] => 0
  | n :: ns => n + total ns

/-! ## Laws -/

/-- A power with an exponent that is not positive is one. -/
theorem powerOf_of_nonpos (b : Nat) {e : Int} (h : e ≤ 0) : powerOf b e = 1 := by
  rw [powerOf, Int.toNat_of_nonpos h]
  rfl

/-- One more in the exponent is one more factor. -/
theorem powerOf_add_one (b : Nat) {e : Int} (h : 0 ≤ e) : powerOf b (e + 1) = powerOf b e * b := by
  rw [powerOf, powerOf, Int.toNat_add h (by decide)]
  rfl

@[simp] theorem total_nil : total [] = 0 := rfl

@[simp] theorem total_cons (n : Nat) (ns : List Nat) : total (n :: ns) = n + total ns := rfl

/-- The total of two lists together. -/
@[simp] theorem total_append (ms ns : List Nat) : total (ms ++ ns) = total ms + total ns := by
  induction ms with
  | nil => simp
  | cons m ms ih => simp [ih, Nat.add_assoc]

/-- The total of equal numbers. -/
@[simp] theorem total_replicate (n m : Nat) : total (List.replicate n m) = n * m := by
  induction n with
  | zero => simp
  | succ n ih => simp [List.replicate_succ, ih, Nat.succ_mul, Nat.add_comm]

end Entity
