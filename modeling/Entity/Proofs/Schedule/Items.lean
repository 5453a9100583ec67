import Entity.Schedule.Cron
import Entity.Proofs.Number.Numeral
import Mathlib

/-!
# Items of cron expressions as sets

An item of a cron field that is written with decimal numbers stands for a set of values.  Main
statements: an item is read from the text that it is written as, and the test of a value decides
whether the value is in the set, unless it meets a number with too many digits.
-/

namespace Entity.Cron

open Entity.Text Entity.Numeral

/-! ## Answers -/

/-- The answer is whether something holds, or there is no answer and something else holds. -/
def Decides (holds fails : Prop) : Option Bool → Prop
  | some b => b = true ↔ holds
  | none => fails

section Decides

variable {p q fails fails' : Prop} {answer : Option Bool} {b : Bool}

theorem decides_some (h : b = true ↔ p) : Decides p fails (some b) := h

theorem Decides.congr (h : Decides p fails answer) (hholds : p ↔ q) (hfails : fails → fails') :
    Decides q fails' answer := by
  cases answer with
  | some b => exact Iff.trans h hholds
  | none => exact hfails h

/-- A test that goes on from the answer of another one. -/
theorem Decides.bind {next : Bool → Option Bool} (h : Decides p fails answer)
    (hnext : ∀ b, (b = true ↔ p) → Decides q fails (next b)) :
    Decides q fails (answer.bind next) := by
  cases answer with
  | none => exact h
  | some b => exact hnext b h

end Decides

/-! ## Numbers -/

/-- A number has more digits than an integer in text may have. -/
def Overlong (n : List Char) : Prop := digitLimit < n.length

section Numbers

variable {n low high : List Char} {start step value : ℤ} {fails : Prop}

/-- What is done with a number is done, unless the number is too long. -/
theorem decides_number {p : Prop} {next : ℤ → Option Bool} (h : DecimalDigits n)
    (hlong : Overlong n → fails) (hnext : Decides p fails (next (decimalNumber n))) :
    Decides p fails ((int? n).bind next) := by
  rw [h.int?_eq]
  split
  · rename_i hmany
    exact hlong hmany
  · exact hnext

theorem decides_inRange? (hlow : DecimalDigits low) (hhigh : DecimalDigits high)
    (hfails : Overlong low ∨ Overlong high → fails) :
    Decides ((decimalNumber low : ℤ) ≤ value ∧ value ≤ decimalNumber high) fails
      (inRange? low high value) := by
  refine decides_number hlow (hfails ∘ Or.inl) ?_
  split
  · rename_i hless
    exact decides_some (iff_of_false Bool.false_ne_true fun h => not_le.mpr hless h.1)
  · rename_i hnot
    refine decides_number hhigh (hfails ∘ Or.inr) (decides_some ?_)
    rw [decide_eq_true_iff, and_iff_right (not_lt.mp hnot)]

/-! ## Steps -/

/-- What is reached from a start by taking steps.  A step of nothing leads nowhere. -/
def steps (start step : ℤ) : Set ℤ := {value | 0 < step ∧ ∃ k : ℕ, value = start + k * step}

/-- A value at or after the start is reached exactly if its distance is a number of steps. -/
theorem mem_steps_iff :
    value ∈ steps start step ↔ 0 < step ∧ start ≤ value ∧ onStep start step value = true := by
  rw [onStep, beq_iff_eq, ← Int.dvd_iff_emod_eq_zero]
  constructor
  · rintro ⟨hstep, k, rfl⟩
    have hforward : 0 ≤ (k : ℤ) * step := Int.mul_nonneg (Int.natCast_nonneg k) hstep.le
    exact ⟨hstep, by omega, k, by rw [Int.mul_comm step]; omega⟩
  · rintro ⟨hstep, hle, k, hk⟩
    have hk0 : 0 ≤ k := by
      by_contra hneg
      have hback : step * k < 0 := Int.mul_neg_of_pos_of_neg hstep (not_le.mp hneg)
      omega
    obtain ⟨k, rfl⟩ := Int.eq_ofNat_of_zero_le hk0
    exact ⟨hstep, k, by rw [Int.mul_comm (k : ℤ) step]; omega⟩

end Numbers

/-! ## Items -/

namespace Item

/-- The item as it is written. -/
def text : Item → List Char
  | every => ['*']
  | nothing => []
  | exactly n => n
  | range low high => low ++ '-' :: high
  | everyStep step => '*' :: '/' :: step
  | rangeStep low high step => (low ++ '-' :: high) ++ '/' :: step
  | fromStep low step => low ++ '/' :: step

/-- The numbers of an item. -/
def numbers : Item → List (List Char)
  | every => []
  | nothing => []
  | exactly n => [n]
  | range low high => [low, high]
  | everyStep step => [step]
  | rangeStep low high step => [low, high, step]
  | fromStep low step => [low, step]

/-- The item is there, and its numbers are decimal. -/
structure Decimal (item : Item) : Prop where
  present : item ≠ nothing
  digits : ∀ n ∈ item.numbers, DecimalDigits n

instance (item : Item) : Decidable item.Decimal :=
  decidable_of_iff (item ≠ nothing ∧ ∀ n ∈ item.numbers, DecimalDigits n)
    ⟨fun h => ⟨h.1, h.2⟩, fun h => ⟨h.present, h.digits⟩⟩

/-- The values that an item stands for, of those from `least` to `greatest`. -/
def values (least greatest : ℤ) (item : Item) : Set ℤ :=
  Set.Icc least greatest ∩ match item with
    | every => Set.univ
    | nothing => ∅
    | exactly n => {(decimalNumber n : ℤ)}
    | range low high => Set.Icc (decimalNumber low : ℤ) (decimalNumber high)
    | everyStep step => steps least (decimalNumber step)
    | rangeStep low high step =>
      steps (decimalNumber low) (decimalNumber step) ∩ Set.Iic (decimalNumber high : ℤ)
    | fromStep low step => steps (decimalNumber low) (decimalNumber step)

variable {item : Item} {least greatest value : ℤ}

/-- Apart from its numbers, an item holds the marks of its form. -/
theorem mem_text {c : Char} (hc : c ∈ item.text) :
    (∃ n ∈ item.numbers, c ∈ n) ∨ c = '*' ∨ c = '-' ∨ c = '/' := by
  cases item <;> simp only [text, numbers, List.mem_append, List.mem_cons] at hc ⊢ <;> grind

/-- What holds of the digits and of the marks of items holds of all characters of an item. -/
theorem Decimal.forall_text (h : item.Decimal) {p : Char → Prop}
    (hdigit : ∀ c, isDecimal c = true → p c) (hstar : p '*') (hminus : p '-') (hslash : p '/') :
    ∀ c ∈ item.text, p c := by
  intro c hc
  rcases mem_text hc with ⟨n, hn, hc⟩ | rfl | rfl | rfl
  · exact hdigit c ((h.digits n hn).all c hc)
  · exact hstar
  · exact hminus
  · exact hslash

/-- No comma stands in an item. -/
theorem Decimal.comma_not_mem (h : item.Decimal) : ',' ∉ item.text := by
  have hne : ∀ c ∈ item.text, c ≠ ',' := by
    refine h.forall_text ?_ (by decide) (by decide) (by decide)
    rintro c hc rfl
    exact absurd hc (by decide)
  exact fun hc => hne ',' hc rfl

/-- No blank stands in an item. -/
theorem Decimal.not_blank (h : item.Decimal) : ∀ c ∈ item.text, isBlank c = false :=
  h.forall_text (fun _ => isBlank_of_isDecimal) (by decide) (by decide) (by decide)

theorem Decimal.text_ne_nil (h : item.Decimal) : item.text ≠ [] := by
  cases item with
  | nothing => exact absurd rfl h.present
  | exactly n => exact (h.digits n (by simp [numbers])).ne_nil
  | every | everyStep => exact List.cons_ne_nil _ _
  | range | rangeStep | fromStep => exact List.append_ne_nil_of_right_ne_nil _ (List.cons_ne_nil _ _)

/-- What begins with a number is not the mark for every value. -/
theorem append_ne_star {n : List Char} (h : DecimalDigits n) (rest : List Char) :
    n ++ rest ≠ ['*'] := by
  obtain ⟨c, n, rfl⟩ := List.exists_cons_of_ne_nil h.ne_nil
  intro heq
  have hc : isDecimal c = true := h.all c (by simp)
  rw [List.cons_append, List.cons_eq_cons] at heq
  rw [heq.1] at hc
  exact absurd hc (by decide)

/-- **An item is read from its text.** -/
theorem ofText_text (h : item.Decimal) : ofText item.text = item := by
  have hminus : ∀ n ∈ item.numbers, '-' ∉ n := fun n hn => (h.digits n hn).not_mem (by decide)
  have hslash : ∀ n ∈ item.numbers, '/' ∉ n := fun n hn => (h.digits n hn).not_mem (by decide)
  cases item with
  | every => rfl
  | nothing => exact absurd rfl h.present
  | exactly n =>
      have hn : DecimalDigits n := h.digits n (by simp [numbers])
      have hstar := append_ne_star hn []
      rw [List.append_nil] at hstar
      have hempty : n.isEmpty = false := List.isEmpty_eq_false_iff.mpr hn.ne_nil
      simp only [ofText, text, cutAt?_of_not_mem (hslash n (by simp [numbers])), hstar, if_false,
        cutAt?_of_not_mem (hminus n (by simp [numbers])), hempty, Bool.false_eq_true]
  | range low high =>
      have hlow : DecimalDigits low := h.digits low (by simp [numbers])
      have hnoslash : '/' ∉ low ++ '-' :: high := by
        simp [hslash low (by simp [numbers]), hslash high (by simp [numbers])]
      simp only [ofText, text, cutAt?_of_not_mem hnoslash, append_ne_star hlow, if_false,
        cutAt?_append (hminus low (by simp [numbers]))]
  | everyStep step => rfl
  | rangeStep low high step =>
      have hlow : DecimalDigits low := h.digits low (by simp [numbers])
      have hnoslash : '/' ∉ low ++ '-' :: high := by
        simp [hslash low (by simp [numbers]), hslash high (by simp [numbers])]
      simp only [ofText, text, cutAt?_append hnoslash, ofStepText, append_ne_star hlow, if_false,
        cutAt?_append (hminus low (by simp [numbers]))]
  | fromStep low step =>
      have hlow : DecimalDigits low := h.digits low (by simp [numbers])
      have hstar := append_ne_star hlow []
      rw [List.append_nil] at hstar
      simp only [ofText, text, cutAt?_append (hslash low (by simp [numbers])), ofStepText, hstar,
        if_false, cutAt?_of_not_mem (hminus low (by simp [numbers]))]

/-- A test for the values that steps reach, which is only made for positive steps. -/
theorem decides_steps {step : List Char} {start : ℤ} {p fails : Prop} {next : ℤ → Option Bool}
    (hstep : DecimalDigits step) (hlong : Overlong step → fails)
    (hnext : 0 < (decimalNumber step : ℤ) →
      Decides (start ≤ value ∧ onStep start (decimalNumber step) value = true ∧ p) fails
        (next (decimalNumber step))) :
    Decides (value ∈ steps start (decimalNumber step) ∧ p) fails
      ((int? step).bind fun s => if s ≤ 0 then some false else next s) := by
  rw [mem_steps_iff, and_assoc, and_assoc]
  refine decides_number hstep hlong ?_
  split
  · rename_i hnone
    exact decides_some (iff_of_false Bool.false_ne_true fun h => not_lt.mpr hnone h.1)
  · rename_i hsome
    have hpos : 0 < (decimalNumber step : ℤ) := not_le.mp hsome
    exact (hnext hpos).congr (and_iff_right hpos).symm id

/-- **The test of a value decides whether an item stands for it**, unless a number of the item is
too long. -/
theorem decides_matches? (h : item.Decimal) (hvalue : value ∈ Set.Icc least greatest) :
    Decides (value ∈ item.values least greatest) (∃ n ∈ item.numbers, Overlong n)
      (item.matches? least greatest value) := by
  have hlong : ∀ n ∈ item.numbers, Overlong n → ∃ n ∈ item.numbers, Overlong n :=
    fun n hn hmany => ⟨n, hn, hmany⟩
  unfold values
  rw [Set.mem_inter_iff, and_iff_right hvalue]
  cases item with
  | every => exact decides_some (iff_of_true rfl (Set.mem_univ value))
  | nothing => exact absurd rfl h.present
  | exactly n =>
      have hn : n ∈ (exactly n).numbers := by simp [numbers]
      rw [matches?, Option.map_eq_bind]
      exact decides_number (h.digits n hn) (hlong n hn) (decides_some (by simp))
  | range low high =>
      have hlow : low ∈ (range low high).numbers := by simp [numbers]
      have hhigh : high ∈ (range low high).numbers := by simp [numbers]
      exact decides_inRange? (h.digits low hlow) (h.digits high hhigh)
        fun hmany => hmany.elim (hlong low hlow) (hlong high hhigh)
  | everyStep step =>
      have hstep : step ∈ (everyStep step).numbers := by simp [numbers]
      rw [matches?, Option.map_eq_bind]
      refine decides_number (h.digits step hstep) (hlong step hstep) (decides_some ?_)
      change _ ↔ value ∈ steps least (decimalNumber step)
      rw [Bool.and_eq_true, decide_eq_true_iff, mem_steps_iff, and_iff_right hvalue.1]
  | rangeStep low high step =>
      have hlow : low ∈ (rangeStep low high step).numbers := by simp [numbers]
      have hhigh : high ∈ (rangeStep low high step).numbers := by simp [numbers]
      have hstep : step ∈ (rangeStep low high step).numbers := by simp [numbers]
      refine decides_steps (h.digits step hstep) (hlong step hstep) fun _ => ?_
      refine (decides_inRange? (h.digits low hlow) (h.digits high hhigh)
        fun hmany => hmany.elim (hlong low hlow) (hlong high hhigh)).bind fun inside hinside => ?_
      refine decides_number (h.digits low hlow) (hlong low hlow) (decides_some ?_)
      rw [Bool.and_eq_true, hinside, and_assoc]
      exact and_congr_right' and_comm
  | fromStep low step =>
      have hlow : low ∈ (fromStep low step).numbers := by simp [numbers]
      have hstep : step ∈ (fromStep low step).numbers := by simp [numbers]
      change Decides (value ∈ steps (decimalNumber low) (decimalNumber step)) _ _
      rw [← and_true (value ∈ _)]
      refine decides_steps (h.digits step hstep) (hlong step hstep) fun _ => ?_
      refine decides_number (h.digits low hlow) (hlong low hlow) (decides_some ?_)
      simp [hvalue.2]

end Item

end Entity.Cron
