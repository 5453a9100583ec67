import Entity.Number.Numeral
import Entity.Proofs.Text.Ends
import Mathlib.Tactic.Common

/-!
# Reading printed integers

The text of an integer is read back as the integer, and decimal digits of any script are read as
the number that they denote.  Main statements: this holds of every integer with no more digits than
an integer in text may have, and with more digits there is no integer.
-/

namespace Entity

open Entity.Text

/-- A text that is not empty and holds decimal digits only. -/
structure DecimalDigits (cs : List Char) : Prop where
  ne_nil : cs ≠ []
  all : ∀ c ∈ cs, isDecimal c = true

instance (cs : List Char) : Decidable (DecimalDigits cs) :=
  decidable_of_iff (cs ≠ [] ∧ cs.all isDecimal = true)
    ⟨fun h => ⟨h.1, List.all_eq_true.mp h.2⟩, fun h => ⟨h.ne_nil, List.all_eq_true.mpr h.all⟩⟩

namespace Numeral

/-! ## Digits -/

theorem val_lt_of_isDigit {c : Char} (h : c.isDigit = true) : c.val < 128 := by
  simp only [Char.isDigit, Bool.and_eq_true, decide_eq_true_eq] at h
  have h9 := h.2
  simp only [UInt32.le_iff_toNat_le, UInt32.lt_iff_toNat_lt] at h9 ⊢
  exact Nat.lt_of_le_of_lt h9 (by decide)

/-- An ASCII digit has its value. -/
theorem decimalValue?_of_isDigit {c : Char} (h : c.isDigit = true) :
    decimalValue? c = some (c.toNat - '0'.toNat) := by
  rw [decimalValue?, if_pos (val_lt_of_isDigit h), if_pos h]

/-- A digit is a word character. -/
theorem isWord_of_isDigit {c : Char} (h : c.isDigit = true) : isWord c = true := by
  rw [isWord, if_pos (val_lt_of_isDigit h), Char.isAlphanum, h]
  simp

/-- The digits of a natural number. -/
theorem word_toDigits (n : Nat) : Word (Nat.toDigits 10 n) :=
  ⟨Nat.toDigits_ne_nil,
    fun _ hc => isWord_of_isDigit (Nat.isDigit_of_mem_toDigits (by decide) (by decide) hc)⟩

theorem digitRun_of_isDigit {cs : List Char} (h : ∀ c ∈ cs, c.isDigit = true) :
    digitRun cs = (cs.map fun c => c.toNat - '0'.toNat, []) := by
  induction cs with
  | nil => rfl
  | cons c cs ih =>
      have hcs := ih fun d hd => h d (by simp [hd])
      unfold digitRun
      rw [decimalValue?_of_isDigit (h c (by simp))]
      dsimp only
      rw [hcs]
      rfl

theorem ofDigits_map (cs : List Char) :
    ofDigits (cs.map fun c => c.toNat - '0'.toNat) = Nat.ofDigitChars 10 cs 0 := by
  rw [ofDigits, List.foldl_map, Nat.ofDigitChars_eq_foldl]

/-- The digits of a natural number are read as the number. -/
theorem digits_toDigits (n : Nat) : ∃ ds : List Nat,
    digits (Nat.toDigits 10 n) = (ds, []) ∧ ofDigits ds = n ∧
      ds.length = (Nat.toDigits 10 n).length := by
  have hrun : digitRun (Nat.toDigits 10 n) =
      ((Nat.toDigits 10 n).map fun c => c.toNat - '0'.toNat, []) :=
    digitRun_of_isDigit fun _ hc => Nat.isDigit_of_mem_toDigits (by decide) (by decide) hc
  refine ⟨(Nat.toDigits 10 n).map fun c => c.toNat - '0'.toNat, ?_, ?_, by simp⟩
  · rw [← hrun]
    unfold digits
    split
    · rename_i cs hcs
      have hmem : '_' ∈ Nat.toDigits 10 n := by
        rw [hcs]
        simp
      exact absurd hmem Nat.underscore_not_in_toDigits
    · rfl
  · rw [ofDigits_map, Nat.ofDigitChars_ten_toDigits]

/-! ## Integers -/

/-- The text of an integer: a minus, or nothing, and digits. -/
theorem toList_toString_int (n : Int) :
    (toString n).toList = (if n < 0 then ['-'] else []) ++ Nat.toDigits 10 n.natAbs := by
  rw [Int.toString_eq_repr, Int.repr_eq_if]
  split
  · rename_i h
    rw [if_neg (Int.not_lt.mpr h), Nat.toList_repr]
    congr
    omega
  · rename_i h
    rw [if_pos (Int.not_le.mp h), String.toList_append, Nat.toList_repr]
    congr
    omega

theorem solid_toString_int (n : Int) :
    SolidStart (toString n).toList ∧ SolidEnd (toString n).toList := by
  have hw := word_toDigits n.natAbs
  rw [toList_toString_int]
  refine ⟨?_, hw.solidEnd.append _⟩
  split
  · exact ⟨'-', _, rfl, by decide⟩
  · exact hw.solidStart

/-- A word has no sign. -/
theorem sign_of_word {cs : List Char} (h : Word cs) : sign cs = (false, cs) := by
  have hminus : '-' ∉ cs := h.not_mem (by decide)
  have hplus : '+' ∉ cs := h.not_mem (by decide)
  unfold sign
  split
  · simp at hminus
  · simp at hplus
  · rfl

theorem sign_toString_int (n : Int) :
    sign (toString n).toList = (decide (n < 0), Nat.toDigits 10 n.natAbs) := by
  rw [toList_toString_int]
  split
  · rename_i h
    rw [decide_eq_true h]
    rfl
  · rename_i h
    rw [decide_eq_false h]
    exact sign_of_word (word_toDigits _)

/-- **The text of an integer is read as the integer**, if it has not too many digits. -/
theorem int?_toString {n : Int} (h : (Nat.toDigits 10 n.natAbs).length ≤ digitLimit) :
    int? (toString n).toList = some n := by
  have htrim := trim_of_solid (solid_toString_int n).1 (solid_toString_int n).2
  obtain ⟨ds, hds, hvalue, hlength⟩ := digits_toDigits n.natAbs
  have hle : ¬ digitLimit < ds.length := by
    rwa [hlength, Nat.not_lt]
  have hne : ds ≠ [] := by
    rintro rfl
    exact Nat.toDigits_ne_nil (List.eq_nil_of_length_eq_zero hlength.symm)
  -- the sign is taken off, and the rest is digits to the end
  rw [int?, htrim, sign_toString_int]
  dsimp only
  rw [hds]
  split
  · rename_i heq
    cases heq
    exact absurd rfl hne
  · rename_i heq
    cases heq
    rw [if_neg hle, hvalue]
    refine congrArg some ?_
    split
    · rename_i hsign
      have hneg : n < 0 := of_decide_eq_true hsign
      omega
    · rename_i hsign
      have hneg : ¬ n < 0 := fun h => hsign (decide_eq_true h)
      omega
  · rename_i heq
    cases heq

/-! ## Decimal digits of any script -/

/-- The number that the decimal digits of a text denote. -/
def decimalNumber (cs : List Char) : Nat := ofDigits (cs.filterMap decimalValue?)

section Decimal

variable {cs : List Char}

/-- Decimal digits are read to their end. -/
theorem digitRun_of_isDecimal (h : ∀ c ∈ cs, isDecimal c = true) :
    digitRun cs = (cs.filterMap decimalValue?, []) := by
  induction cs with
  | nil => rfl
  | cons c cs ih =>
      have hrun := ih fun d hd => h d (by simp [hd])
      obtain ⟨d, hd⟩ := Option.isSome_iff_exists.mp (h c (by simp))
      unfold digitRun
      rw [hd, List.filterMap_cons_some hd]
      dsimp only
      rw [hrun]

theorem digits_of_isDecimal (h : ∀ c ∈ cs, isDecimal c = true) :
    digits cs = (cs.filterMap decimalValue?, []) := by
  unfold digits
  split
  · have hlow : isDecimal '_' = true := h '_' (by simp)
    exact absurd hlow (by decide)
  · exact digitRun_of_isDecimal h

/-- Each decimal digit counts. -/
theorem length_decimalValues (h : ∀ c ∈ cs, isDecimal c = true) :
    (cs.filterMap decimalValue?).length = cs.length := by
  induction cs with
  | nil => rfl
  | cons c cs ih =>
      obtain ⟨d, hd⟩ := Option.isSome_iff_exists.mp (h c (by simp))
      rw [List.filterMap_cons_some hd, List.length_cons, List.length_cons,
        ih fun d hd => h d (by simp [hd])]

/-- Digits behind a sign are an integer, if there are not too many of them. -/
theorem int?_of_sign (htrim : trim cs = cs) (h : DecimalDigits (sign cs).2) :
    int? cs = if digitLimit < (sign cs).2.length then none
      else some (if (sign cs).1 then -(decimalNumber (sign cs).2 : Int)
        else decimalNumber (sign cs).2) := by
  have hlength := length_decimalValues h.all
  have hne : (sign cs).2.filterMap decimalValue? ≠ [] := fun hnil =>
    h.ne_nil (List.length_eq_zero_iff.mp (hlength.symm.trans (congrArg List.length hnil)))
  obtain ⟨d, ds, hds⟩ := List.exists_cons_of_ne_nil hne
  rw [← hlength, decimalNumber, hds]
  simp only [int?, htrim, digits_of_isDecimal h.all, hds]

set_option maxRecDepth 4000 in
/-- No blank character is a digit. -/
theorem isBlank_of_isDecimal {c : Char} (h : isDecimal c = true) : isBlank c = false := by
  have hall : ∀ n ∈ blankCodes, isDecimal (Char.ofNat n) = false := by decide
  by_contra hc
  have hdigit := hall c.toNat (toNat_mem_blankCodes (by simpa using hc))
  rw [Char.ofNat_toNat, h] at hdigit
  cases hdigit

/-- Nines are digits. -/
theorem decimalDigits_replicate {n : Nat} (h : 0 < n) : DecimalDigits (List.replicate n '9') := by
  refine ⟨fun hnil => absurd (List.replicate_eq_nil_iff '9' |>.mp hnil) h.ne', fun c hc => ?_⟩
  rw [List.eq_of_mem_replicate hc]
  decide

end Decimal

end Numeral

namespace DecimalDigits

open Numeral

variable {cs : List Char}

/-- Digits have no sign. -/
theorem sign (h : DecimalDigits cs) : sign cs = (false, cs) := by
  unfold Numeral.sign
  split
  · exact absurd (h.all '-' (by simp)) (by decide)
  · exact absurd (h.all '+' (by simp)) (by decide)
  · rfl

theorem trim_eq (h : DecimalDigits cs) : trim cs = cs := by
  refine trim_of_solid ?_ ?_
  · obtain ⟨c, rest, rfl⟩ := List.exists_cons_of_ne_nil h.ne_nil
    exact ⟨c, rest, rfl, isBlank_of_isDecimal (h.all c (by simp))⟩
  · rcases List.eq_nil_or_concat cs with rfl | ⟨init, c, rfl⟩
    · exact absurd rfl h.ne_nil
    · rw [List.concat_eq_append] at h ⊢
      exact ⟨init, c, rfl, isBlank_of_isDecimal (h.all c (by simp))⟩

/-- Digits are read as their number, if there are not too many of them. -/
theorem int?_eq (h : DecimalDigits cs) :
    int? cs = if digitLimit < cs.length then none else some (decimalNumber cs : Int) := by
  have hdigits : DecimalDigits (Numeral.sign cs).2 := by rwa [h.sign]
  rw [int?_of_sign h.trim_eq hdigits, h.sign]
  rfl

/-- A character that is no decimal digit does not stand among digits. -/
theorem not_mem (h : DecimalDigits cs) {c : Char} (hc : isDecimal c = false) : c ∉ cs := by
  intro hmem
  rw [h.all c hmem] at hc
  cases hc

end DecimalDigits

end Entity
