import Entity.Field.Coercion
import Entity.Proofs.Cascade.Filters
import Entity.Proofs.Cascade.Overlong
import Entity.Proofs.Number.Rounding

/-!
# Coercing numeric text

The text of an integer becomes a number in two places: a field of numbers coerces it by way of a
floating-point number, and the value of a filter is read digit by digit.  Main statement: the first
loses nothing, and agrees with the second, exactly if the integer has at most 53 significant bits
and is not too large for a finite number.
-/

namespace Entity

open Entity.Text Entity.Binary64

/-! ## Reading the text of an integer as a floating-point number -/

namespace Numeral

theorem toLower_of_isDigit {c : Char} (h : c.isDigit = true) : c.toLower = c := by
  refine dif_neg fun hcapital => ?_
  have hle := hcapital.1
  rw [Char.isDigit_iff_toNat] at h
  rw [ge_iff_le, UInt32.le_iff_toNat_le] at hle
  exact absurd (le_trans hle h.2) (by decide)

/-- Digits are no word for a number that is not finite. -/
theorem special?_toDigits (negative : Bool) (n : Nat) :
    special? negative (Nat.toDigits 10 n) = none := by
  obtain ⟨c, cs, hcs⟩ := List.exists_cons_of_ne_nil (Nat.toDigits_ne_nil (n := n) (b := 10))
  have hdigit : c.isDigit = true := by
    apply Nat.isDigit_of_mem_toDigits (b := 10) (n := n) (by decide) (by decide)
    rw [hcs]
    exact List.mem_cons_self
  have hne : ∀ d : Char, d.isDigit = false → c ≠ d := by
    rintro d hd rfl
    rw [hdigit] at hd
    cases hd
  rw [hcs, special?, List.map_cons, toLower_of_isDigit hdigit]
  simp [hne 'i' rfl, hne 'n' rfl]

/-- The text of an integer is read as the number for its digits. -/
theorem float?_toString_int (n : Int) :
    float? (toString n).toList = some (.ofDecimal (decide (n < 0)) n.natAbs 0) := by
  obtain ⟨ds, hds, hvalue, hlength⟩ := digits_toDigits n.natAbs
  have hne : ds ≠ [] := by
    rintro rfl
    exact Nat.toDigits_ne_nil (List.eq_nil_of_length_eq_zero hlength.symm)
  have hsolid := solid_toString_int n
  rw [float?, trim_of_solid hsolid.1 hsolid.2, sign_toString_int]
  simp only [special?_toDigits, hds, fraction, exponent?]
  simp [hne, hvalue]

end Numeral

/-! ## Coercing it -/

/-- A number that is an integer is written as one, unless there is a point in the text. -/
theorem numericText?_of_isInt {s : String} {x : Binary64} {z : Int}
    (hread : Numeral.float? s.toList = some x) (hx : x.IsInt z) (hpoint : '.' ∉ s.toList) :
    numericText? s = some (.int z) := by
  have hcontains : s.toList.contains '.' = false := by simpa using hpoint
  rw [numericText?, hread, Option.map_some, hx.1, hx.2, hcontains]
  rfl

theorem numericText?_of_infinite {s : String} {negative : Bool}
    (hread : Numeral.float? s.toList = some (.infinite negative)) :
    numericText? s = some (.float (.infinite negative)) := by
  rw [numericText?, hread]
  rfl

/-- The text of an integer becomes the nearest integer with 53 significant bits, or an infinite
number if that is too large. -/
theorem Primitive.coerce_number_toString (n : Int) :
    Primitive.number.coerce (.text (toString n)) =
      if rounded n.natAbs < tooLarge then .int (signed (decide (n < 0)) (rounded n.natAbs))
      else .float (.infinite (decide (n < 0))) := by
  have hread := Numeral.float?_toString_int n
  rw [Primitive.coerce]
  split
  · rename_i h
    rw [numericText?_of_isInt hread (isInt_ofDecimal _ h) (not_mem_toString_int n (by decide) rfl),
      Option.getD_some]
  · rename_i h
    rw [ofDecimal_of_tooLarge _ (Nat.not_lt.mp h)] at hread
    rw [numericText?_of_infinite hread, Option.getD_some]

/-- A filter reads the text of an integer as the integer, unless it has too many digits. -/
theorem FilterValue.ofText_toString_int (n : Int) :
    FilterValue.ofText (toString n) = .ok (.int n) ∨
      Numeral.digitLimit < (Nat.toDigits 10 n.natAbs).length ∧
        ∃ e, FilterValue.ofText (toString n) = .error e := by
  rcases Nat.lt_or_ge Numeral.digitLimit (Nat.toDigits 10 n.natAbs).length with h | h
  · right
    have hsolid := Numeral.solid_toString_int n
    refine ⟨h, (exists_ofText_error_iff _).mpr ?_⟩
    have htrim := trim_of_solid hsolid.1 hsolid.2
    refine ⟨?_, ?_, ?_⟩
    · rw [htrim]
      exact isDecimalNumber_toString_int n
    · rw [htrim]
      exact not_mem_toString_int n (by decide) rfl
    · rwa [htrim, Numeral.sign_toString_int]
  · left
    have hread := (printed_int h).read
    rwa [String.ofList_toList] at hread

/-- What it becomes is no farther away than any other integer with 53 significant bits. -/
theorem natAbs_sub_le_of_coerce {n z : Int}
    (h : Primitive.number.coerce (.text (toString n)) = .int z) {k : Int} (hk : Short k.natAbs) :
    (n - z).natAbs ≤ (n - k).natAbs := by
  rw [Primitive.coerce_number_toString] at h
  split at h
  · have hz := Value.int.inj h
    have hdist := dist_rounded_le n.natAbs hk
    simp only [signed, decide_eq_true_eq] at hz
    simp only [Nat.dist] at hdist
    split at hz <;> omega
  · cases h

/-- **Numeric text without loss.**  The text of an integer is coerced to the integer, and to what a
filter reads in it, exactly if the integer has at most 53 significant bits and is not too large for
a finite number; and what it is coerced to, if it is an integer, is the nearest of those. -/
theorem Primitive.coerce_number_lossless_iff (n : Int) :
    (Primitive.number.coerce (.text (toString n)) = .int n ↔ Exact n) ∧
      ((FilterValue.ofText (toString n)).map FilterValue.toValue =
        .ok (Primitive.number.coerce (.text (toString n))) ↔ Exact n) ∧
      ∀ z, Primitive.number.coerce (.text (toString n)) = .int z →
        ∀ k : Int, Short k.natAbs → (n - z).natAbs ≤ (n - k).natAbs := by
  have hlossless : Primitive.number.coerce (.text (toString n)) = .int n ↔ Exact n := by
    rw [Primitive.coerce_number_toString, exact_iff]
    split
    · rename_i h
      rw [Value.int.injEq]
      exact (and_iff_right h).symm
    · rename_i h
      exact iff_of_false (fun heq => by cases heq) (fun hn => h hn.1)
  refine ⟨hlossless, ?_, fun z hz k hk => natAbs_sub_le_of_coerce hz hk⟩
  rcases FilterValue.ofText_toString_int n with hfilter | ⟨hlong, e, hfilter⟩
  · rw [hfilter, ← hlossless]
    exact ⟨fun heq => (Except.ok.inj heq).symm, fun heq => congrArg Except.ok heq.symm⟩
  · -- with so many digits the integer is too large
    rw [hfilter]
    refine iff_of_false (fun heq => by cases heq) fun hn => ?_
    have hlarge : 10 ^ Numeral.digitLimit ≤ n.natAbs := by
      rw [← Nat.not_lt, ← Nat.length_toDigits_le_iff (by decide) (by decide)]
      omega
    have hbound : tooLarge ≤ 10 ^ Numeral.digitLimit := by decide +kernel
    exact absurd hn.finite (Nat.not_lt.mpr (hbound.trans hlarge))

/-- An odd integer with 54 bits becomes its even neighbour, but a filter reads it as it is. -/
theorem Primitive.coerce_number_lossy_odd :
    Primitive.number.coerce (.text (toString (9007199254740993 : Int))) = .int 9007199254740992 ∧
      FilterValue.ofText (toString (9007199254740993 : Int)) = .ok (.int 9007199254740993) := by
  have hrounded : rounded (9007199254740993 : Int).natAbs = 9007199254740992 := by decide +kernel
  constructor
  · rw [Primitive.coerce_number_toString, hrounded, if_pos (by decide +kernel)]
    rfl
  · rfl

end Entity
