import Entity.Number.Binary64
import Mathlib.Data.Nat.Dist
import Mathlib.Tactic.Ring
import Mathlib.Tactic.Linarith

/-!
# Rounding integers

A natural number is rounded to 53 significant bits: to a multiple of the power of two that stands
behind its first 53 bits.  Main statements: no number with 53 significant bits is nearer to it, it
stays as it is exactly if it has no more of them, and the rounded number is what the binary number
for it denotes, unless that is infinite.
-/

namespace Entity.Binary64

/-! ## The nearest multiple -/

/-- A lower bound in whole multiples is kept. -/
theorem le_roundDiv {n d a : Nat} (hd : 0 < d) (h : a * d ≤ n) : a ≤ roundDiv n d := by
  have hq : a ≤ n / d := (Nat.le_div_iff_mul_le hd).mpr h
  simp only [roundDiv]
  split
  · exact hq
  · split <;> omega

/-- An upper bound in whole multiples is kept. -/
theorem roundDiv_le {n d b : Nat} (hd : 0 < d) (h : n ≤ b * d) : roundDiv n d ≤ b := by
  have hq : n / d ≤ b := Nat.div_le_of_le_mul (by rwa [Nat.mul_comm] at h)
  -- with something left over the bound is not reached
  have hlt : 0 < n % d → n / d < b := by
    intro hr
    refine lt_of_le_of_ne hq fun heq => ?_
    have hdiv := Nat.div_add_mod n d
    rw [heq, Nat.mul_comm] at hdiv
    omega
  simp only [roundDiv]
  split
  · exact hq
  · have hup : n / d < b := hlt (by omega)
    split <;> omega

/-- No multiple is nearer. -/
theorem dist_roundDiv_le (n a : Nat) {d : Nat} (hd : 0 < d) :
    n.dist (roundDiv n d * d) ≤ n.dist (a * d) := by
  have hn : d * (n / d) + n % d = n := Nat.div_add_mod n d
  have hr : n % d < d := Nat.mod_lt n hd
  -- a multiple is at most the one below, or at least the one above
  have hside : a * d ≤ d * (n / d) ∨ d * (n / d) + d ≤ a * d := by
    rcases Nat.lt_or_ge (n / d) a with h | h
    · right
      calc d * (n / d) + d = (n / d + 1) * d := by ring
        _ ≤ a * d := Nat.mul_le_mul_right d h
    · left
      rw [Nat.mul_comm d]
      exact Nat.mul_le_mul_right d h
  have hround : roundDiv n d * d = d * (n / d) ∧ 2 * (n % d) ≤ d ∨
      roundDiv n d * d = d * (n / d) + d ∧ d ≤ 2 * (n % d) := by
    have hdown : n / d * d = d * (n / d) := Nat.mul_comm _ _
    have hup : (n / d + 1) * d = d * (n / d) + d := by ring
    simp only [roundDiv]
    split
    · exact Or.inl ⟨hdown, by omega⟩
    · split
      · exact Or.inr ⟨hup, by omega⟩
      · rcases Nat.mod_two_eq_zero_or_one (n / d) with heven | hodd
        · rw [heven]
          exact Or.inl ⟨hdown, by omega⟩
        · rw [hodd]
          exact Or.inr ⟨hup, by omega⟩
  simp only [Nat.dist]
  omega

/-! ## Significant bits -/

/-- The number of bits behind the first 53. -/
def surplus (n : Nat) : Nat := n.log2 - 52

/-- The number without its bits behind the first 53, rounded to the nearest. -/
def rounded (n : Nat) : Nat := roundDiv n (2 ^ surplus n) * 2 ^ surplus n

/-- The number has at most 53 significant bits. -/
def Short (n : Nat) : Prop := ∃ m e, n = m * 2 ^ e ∧ m < 2 ^ 53

/-- A short number that is not smaller is a multiple of the place of the last of the 53 bits. -/
theorem Short.pow_dvd {k s : Nat} (hk : Short k) (h : 2 ^ s ≤ k) : 2 ^ (s - 52) ∣ k := by
  obtain ⟨m, e, rfl, hm⟩ := hk
  have hlt : 2 ^ s < 2 ^ (53 + e) := by
    calc 2 ^ s ≤ m * 2 ^ e := h
      _ < 2 ^ 53 * 2 ^ e := Nat.mul_lt_mul_of_pos_right hm (Nat.two_pow_pos e)
      _ = 2 ^ (53 + e) := (pow_add 2 53 e).symm
  have he : s - 52 ≤ e := by
    have hs := (Nat.pow_lt_pow_iff_right (by decide)).mp hlt
    omega
  exact dvd_mul_of_dvd_right (pow_dvd_pow 2 he) m

section Rounded

variable {n : Nat}

theorem pow_log2_eq (n : Nat) : 2 ^ (n.log2 - surplus n) * 2 ^ surplus n = 2 ^ n.log2 := by
  rw [← pow_add]
  congr 1
  rw [surplus]
  omega

/-- What is kept has 53 bits, or one more after a carry. -/
theorem roundDiv_surplus_le (n : Nat) : roundDiv n (2 ^ surplus n) ≤ 2 ^ 53 := by
  apply roundDiv_le (Nat.two_pow_pos _)
  calc n ≤ 2 ^ (n.log2 + 1) := Nat.lt_log2_self.le
    _ ≤ 2 ^ (53 + surplus n) := Nat.pow_le_pow_right (by decide) (by rw [surplus]; omega)
    _ = 2 ^ 53 * 2 ^ surplus n := pow_add 2 53 _

/-- Rounding keeps the leading bit. -/
theorem pow_log2_le_rounded (hn : n ≠ 0) : 2 ^ n.log2 ≤ rounded n := by
  rw [← pow_log2_eq]
  apply Nat.mul_le_mul_right
  apply le_roundDiv (Nat.two_pow_pos _)
  rw [pow_log2_eq]
  exact Nat.log2_self_le hn

theorem rounded_zero : rounded 0 = 0 := by
  simp [rounded, roundDiv]

theorem short_rounded (n : Nat) : Short (rounded n) := by
  rcases Nat.lt_or_eq_of_le (roundDiv_surplus_le n) with h | h
  · exact ⟨_, _, rfl, h⟩
  · refine ⟨2 ^ 52, surplus n + 1, ?_, by decide⟩
    rw [rounded, h]
    ring

/-- **Rounding is to the nearest**: no number with 53 significant bits is nearer. -/
theorem dist_rounded_le (n : Nat) {k : Nat} (hk : Short k) : n.dist (rounded n) ≤ n.dist k := by
  rcases eq_or_ne n 0 with rfl | hn
  · simp [rounded_zero]
  · rcases Nat.lt_or_ge k (2 ^ n.log2) with hlt | hge
    · -- the leading bit alone is a multiple, and already nearer than any smaller number
      have hlead := dist_roundDiv_le n (2 ^ (n.log2 - surplus n)) (Nat.two_pow_pos (surplus n))
      have hself := Nat.log2_self_le hn
      rw [pow_log2_eq] at hlead
      rw [rounded]
      simp only [Nat.dist] at hlead ⊢
      omega
    · obtain ⟨a, rfl⟩ := hk.pow_dvd hge
      rw [Nat.mul_comm]
      exact dist_roundDiv_le n a (Nat.two_pow_pos _)

/-- Rounding loses nothing exactly if there are no more than 53 significant bits. -/
theorem rounded_eq_self_iff : rounded n = n ↔ Short n := by
  constructor
  · intro h
    rw [← h]
    exact short_rounded n
  · intro h
    have hdist := dist_rounded_le n h
    simp only [Nat.dist] at hdist
    omega

end Rounded

/-! ## The number that a natural number is read as -/

/-- `m * 2 ^ e = k`, with both sides scaled to whole numbers. -/
def Scaled (m : Nat) (e : Int) (k : Nat) : Prop := m * 2 ^ e.toNat = k * 2 ^ (-e).toNat

/-- The first power of two that is larger than every finite number. -/
def tooLarge : Nat := 2 * leadingBit * powerOf 2 maxExponent

section Scaled

variable {m k : Nat} {e : Int}

theorem Scaled.of_nonneg (h : Scaled m e k) (he : 0 ≤ e) : m * powerOf 2 e = k := by
  rw [Scaled, Int.toNat_of_nonpos (Int.neg_nonpos_of_nonneg he), pow_zero, mul_one] at h
  exact h

theorem Scaled.of_nonpos (h : Scaled m e k) (he : e ≤ 0) : m = k * powerOf 2 (-e) := by
  rw [Scaled, Int.toNat_of_nonpos he, pow_zero, mul_one] at h
  exact h

/-- A factor of two goes from the significand to the exponent. -/
theorem Scaled.carry (h : Scaled (2 * m) e k) : Scaled m (e + 1) k := by
  rcases lt_or_ge e 0 with he | he
  · have hneg : (-e).toNat = (-(e + 1)).toNat + 1 := by omega
    rw [Scaled, hneg, pow_succ, Int.toNat_of_nonpos he.le] at h
    rw [Scaled, Int.toNat_of_nonpos (Int.add_one_le_of_lt he)]
    linarith
  · have hpos : (e + 1).toNat = e.toNat + 1 := by omega
    have hneg : (-(e + 1)).toNat = (-e).toNat := by omega
    rw [Scaled, hpos, hneg, ← h, pow_succ]
    ring

theorem powerOf_eq (b : Nat) (e : Int) : powerOf b e = b ^ e.toNat := rfl

theorem powerOf_two_pos (e : Int) : 0 < powerOf 2 e := Nat.two_pow_pos _

theorem powerOf_two_le {e e' : Int} (h : e ≤ e') : powerOf 2 e ≤ powerOf 2 e' :=
  Nat.pow_le_pow_right (by decide) (Int.toNat_le_toNat h)

/-- With 53 bits, the exponent is beyond the largest one exactly if the number is too large. -/
theorem Scaled.maxExponent_lt_iff (h : Scaled m e k) (hlow : leadingBit ≤ m)
    (hhigh : m < 2 * leadingBit) : maxExponent < e ↔ tooLarge ≤ k := by
  rcases lt_or_ge maxExponent e with he | he
  · refine iff_of_true he ?_
    calc tooLarge = leadingBit * powerOf 2 (maxExponent + 1) := by
          rw [powerOf_add_one 2 (by decide), tooLarge]
          ring
      _ ≤ m * powerOf 2 e := Nat.mul_le_mul hlow (powerOf_two_le he)
      _ = k := h.of_nonneg (le_trans (by decide) he.le)
  · refine iff_of_false (not_lt.mpr he) (not_le.mpr ?_)
    calc k ≤ m * powerOf 2 e := by
          rcases le_total 0 e with hpos | hneg
          · exact (h.of_nonneg hpos).ge
          · rw [powerOf_of_nonpos 2 hneg, mul_one, h.of_nonpos hneg]
            exact Nat.le_mul_of_pos_right k (powerOf_two_pos _)
      _ ≤ m * powerOf 2 maxExponent := Nat.mul_le_mul_left m (powerOf_two_le he)
      _ < tooLarge := Nat.mul_lt_mul_of_pos_right hhigh (powerOf_two_pos _)

/-- The number is an integer. -/
def IsInt (x : Binary64) (z : Int) : Prop := x.truncate? = some z ∧ x.isIntegral = true

theorem Scaled.isInt (h : Scaled m e k) (negative : Bool) :
    (finite negative m e).IsInt (signed negative k) := by
  rw [IsInt, truncate?, isIntegral]
  rcases le_or_gt 0 e with he | he
  · rw [if_pos he, decide_eq_true he, h.of_nonneg he]
    exact ⟨rfl, rfl⟩
  · rw [if_neg (not_le.mpr he), h.of_nonpos he.le, Nat.mul_div_cancel _ (powerOf_two_pos _),
      Nat.mul_mod_left]
    exact ⟨rfl, by simp⟩

end Scaled

/-- A power of two divides the one side or multiplies the other. -/
theorem scaleDown_one (n s : Nat) :
    scaleDown n 1 ((s : Int) - 52) = (n * 2 ^ (52 - s), 2 ^ (s - 52)) := by
  rw [scaleDown]
  split
  · have hup : 52 - s = 0 := by omega
    have hdown : ((s : Int) - 52).toNat = s - 52 := by omega
    rw [hup, powerOf, hdown, one_mul, pow_zero, mul_one]
    rfl
  · have hdown : s - 52 = 0 := by omega
    have hup : (-((s : Int) - 52)).toNat = 52 - s := by omega
    rw [hdown, powerOf, hup]
    rfl

section OfRatio

variable {n : Nat}

/-- The significand before a carry. -/
def significand (n : Nat) : Nat := roundDiv (n * 2 ^ (52 - n.log2)) (2 ^ surplus n)

/-- The leading bit of a number is the first of its 53. -/
theorem leadingBit_le (hn : n ≠ 0) : leadingBit * 2 ^ surplus n ≤ n * 2 ^ (52 - n.log2) := by
  calc leadingBit * 2 ^ surplus n = 2 ^ n.log2 * 2 ^ (52 - n.log2) := by
        rw [show leadingBit = 2 ^ 52 from rfl, ← pow_add, ← pow_add]
        congr 1
        rw [surplus]
        omega
    _ ≤ n * 2 ^ (52 - n.log2) := Nat.mul_le_mul_right _ (Nat.log2_self_le hn)

theorem scaled_significand (n : Nat) :
    Scaled (significand n) ((n.log2 : Int) - 52) (rounded n) := by
  have hup : ((n.log2 : Int) - 52).toNat = surplus n := by
    rw [surplus]
    omega
  have hdown : (-((n.log2 : Int) - 52)).toNat = 52 - n.log2 := by omega
  rw [Scaled, hup, hdown, significand, rounded, surplus]
  rcases Nat.le_total n.log2 52 with h | h
  · rw [Nat.sub_eq_zero_of_le h]
    simp [roundDiv, Nat.mod_one]
  · rw [Nat.sub_eq_zero_of_le h]
    simp

theorem significand_le (n : Nat) : significand n ≤ 2 * leadingBit := by
  apply roundDiv_le (Nat.two_pow_pos _)
  calc n * 2 ^ (52 - n.log2) ≤ 2 ^ (n.log2 + 1) * 2 ^ (52 - n.log2) :=
        Nat.mul_le_mul_right _ Nat.lt_log2_self.le
    _ = 2 * leadingBit * 2 ^ surplus n := by
        rw [show 2 * leadingBit = 2 ^ 53 from rfl, ← pow_add, ← pow_add]
        congr 1
        rw [surplus]
        omega

/-- The number for a natural number: it has 53 bits and denotes the rounded number, or it is too
large and infinite. -/
theorem ofRatio_one (negative : Bool) (hn : n ≠ 0) : ∃ (m : Nat) (e : Int),
    Scaled m e (rounded n) ∧ leadingBit ≤ m ∧ m < 2 * leadingBit ∧ ofRatio negative n 1 =
      if maxExponent < e then .infinite negative else .finite negative m e := by
  have hscaled := scaled_significand n
  have hlow : leadingBit ≤ significand n := le_roundDiv (Nat.two_pow_pos _) (leadingBit_le hn)
  have hhigh := significand_le n
  have hguess : (n.log2 : Int) - Nat.log2 1 - 52 = (n.log2 : Int) - 52 := by
    rw [show Nat.log2 1 = 0 by simp [Nat.log2_def]]
    omega
  have hmin : max ((n.log2 : Int) - 52) minExponent = (n.log2 : Int) - 52 := by
    rw [minExponent]
    omega
  have hnot : ¬ n * 2 ^ (52 - n.log2) < leadingBit * 2 ^ (n.log2 - 52) :=
    Nat.not_lt.mpr (leadingBit_le hn)
  have hdef : roundDiv (n * 2 ^ (52 - n.log2)) (2 ^ (n.log2 - 52)) = significand n := rfl
  rw [ofRatio, if_neg (by omega)]
  simp only [hguess, scaleDown_one, if_neg hnot, hmin, hdef]
  rcases eq_or_lt_of_le hhigh with hcarry | hlt
  · rw [hcarry] at hscaled
    rw [if_pos hcarry]
    exact ⟨leadingBit, _, hscaled.carry, le_refl _, by decide, rfl⟩
  · rw [if_neg hlt.ne]
    exact ⟨significand n, _, hscaled, hlow, hlt, rfl⟩

/-- A number that is not too large is read as the integer that it is rounded to. -/
theorem isInt_ofRatio_one (negative : Bool) (hn : n ≠ 0) (h : rounded n < tooLarge) :
    (ofRatio negative n 1).IsInt (signed negative (rounded n)) := by
  obtain ⟨m, e, hscaled, hlow, hhigh, hratio⟩ := ofRatio_one negative hn
  rw [hratio, if_neg (mt (hscaled.maxExponent_lt_iff hlow hhigh).mp (not_le.mpr h))]
  exact hscaled.isInt negative

/-- A number that is too large is read as infinite. -/
theorem ofRatio_one_of_tooLarge (negative : Bool) (hn : n ≠ 0) (h : tooLarge ≤ rounded n) :
    ofRatio negative n 1 = .infinite negative := by
  obtain ⟨m, e, hscaled, hlow, hhigh, hratio⟩ := ofRatio_one negative hn
  rw [hratio, if_pos ((hscaled.maxExponent_lt_iff hlow hhigh).mpr h)]

theorem short_tooLarge : Short tooLarge := by
  refine ⟨leadingBit, maxExponent.toNat + 1, ?_, by decide⟩
  rw [tooLarge, powerOf_eq, pow_succ]
  ring

/-- Rounding brings no number down into the range of finite numbers. -/
theorem tooLarge_le_rounded (h : tooLarge ≤ n) : tooLarge ≤ rounded n := by
  have hdist := dist_rounded_le n short_tooLarge
  simp only [Nat.dist] at hdist
  omega

end OfRatio

/-- The number for the decimal digits of a natural number is the one for its ratio to one. -/
theorem ofDecimal_zero (negative : Bool) {n : Nat} (hn : n ≠ 0) :
    ofDecimal negative n 0 = ofRatio negative n 1 := by
  rw [ofDecimal, if_neg hn]
  simp only [zero_add, Int.reduceLE, if_true]
  split
  · rename_i h
    -- with so many digits the number is beyond every finite one, which is seen without rounding
    have hlarge : 10 ^ 400 ≤ n := by
      rw [← Nat.not_lt, ← Nat.length_toDigits_le_iff (by decide) (by decide)]
      omega
    have hbound : tooLarge ≤ 10 ^ 400 := by decide +kernel
    exact (ofRatio_one_of_tooLarge negative hn (tooLarge_le_rounded (hbound.trans hlarge))).symm
  · rw [if_neg (by omega), powerOf_of_nonpos 10 (le_refl 0), mul_one]

theorem isInt_ofDecimal (negative : Bool) {n : Nat} (h : rounded n < tooLarge) :
    (ofDecimal negative n 0).IsInt (signed negative (rounded n)) := by
  rcases eq_or_ne n 0 with rfl | hn
  · have hzero : Scaled 0 minExponent (rounded 0) := by
      rw [Scaled, rounded_zero, zero_mul, zero_mul]
    exact hzero.isInt negative
  · rw [ofDecimal_zero negative hn]
    exact isInt_ofRatio_one negative hn h

theorem ofDecimal_of_tooLarge (negative : Bool) {n : Nat} (h : tooLarge ≤ rounded n) :
    ofDecimal negative n 0 = .infinite negative := by
  have hn : n ≠ 0 := by
    rintro rfl
    rw [rounded_zero] at h
    exact absurd h (by decide +kernel)
  rw [ofDecimal_zero negative hn, ofRatio_one_of_tooLarge negative hn h]

/-- The integer is a finite number: it has at most 53 significant bits and is not too large. -/
structure Exact (n : Int) : Prop where
  short : Short n.natAbs
  finite : n.natAbs < tooLarge

theorem exact_iff (n : Int) :
    Exact n ↔ rounded n.natAbs < tooLarge ∧ signed (decide (n < 0)) (rounded n.natAbs) = n := by
  have hsigned : ∀ k : Nat, signed (decide (n < 0)) k = n ↔ k = n.natAbs := by
    intro k
    simp only [signed, decide_eq_true_eq]
    split <;> omega
  rw [hsigned, rounded_eq_self_iff]
  constructor
  · intro h
    rw [rounded_eq_self_iff.mpr h.short]
    exact ⟨h.finite, h.short⟩
  · rintro ⟨hfinite, hshort⟩
    rw [rounded_eq_self_iff.mpr hshort] at hfinite
    exact ⟨hshort, hfinite⟩

end Entity.Binary64
