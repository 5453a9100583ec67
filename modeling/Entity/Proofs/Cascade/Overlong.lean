import Entity.Cascade.Reading
import Entity.Proofs.Number.Numeral
import Entity.Proofs.Outcome
import Mathlib.Data.List.TakeWhile

/-!
# Cascade texts that cannot be read

A filter of a cascade text may compare with an integer that has too many digits to be read.  Main
statement: nothing else makes the reading of a cascade text fail.
-/

namespace Entity

open Entity.Text

/-! ## Filters -/

/-- An integer of a filter that has more digits than an integer in text may have. -/
structure FilterValue.Overlong (raw : List Char) : Prop where
  number : isDecimalNumber (trim raw) = true
  whole : '.' ∉ trim raw
  digits : Numeral.digitLimit < (Numeral.sign (trim raw)).2.length

/-- The part of a decimal number before its point is all of it, if there is no point. -/
theorem decimalDigits_of_span {cs : List Char} (hwhole : '.' ∉ cs)
    (h : (!(cs.span isDecimal).1.isEmpty && match (cs.span isDecimal).2 with
      | [] => true
      | '.' :: part => !part.isEmpty && part.all isDecimal
      | _ => false) = true) : DecimalDigits cs := by
  rw [List.span_eq_takeWhile_dropWhile, Bool.and_eq_true] at h
  dsimp only at h
  obtain ⟨hne, hrest⟩ := h
  -- what follows the digits is nothing, since it could only begin with the point
  have hnil : cs.dropWhile isDecimal = [] := by
    split at hrest
    · assumption
    · rename_i part hpart
      have hpoint : '.' ∈ cs.dropWhile isDecimal := by
        rw [hpart]
        exact List.mem_cons_self
      exact absurd ((List.dropWhile_suffix isDecimal).subset hpoint) hwhole
    · cases hrest
  have hall : ∀ c ∈ cs, isDecimal c = true := by simpa [List.dropWhile_eq_nil_iff] using hnil
  refine ⟨?_, hall⟩
  rintro rfl
  simp at hne

/-- A decimal number without a point has digits only behind its sign. -/
theorem decimalDigits_of_isDecimalNumber {cs : List Char} (h : isDecimalNumber cs = true)
    (hwhole : '.' ∉ cs) : DecimalDigits (Numeral.sign cs).2 := by
  by_cases hminus : ∃ rest, cs = '-' :: rest
  · obtain ⟨rest, rfl⟩ := hminus
    exact decimalDigits_of_span (fun hpoint => hwhole (List.mem_cons_of_mem _ hpoint)) h
  · have hbody : isDecimalNumber cs = (!(cs.span isDecimal).1.isEmpty &&
        match (cs.span isDecimal).2 with
        | [] => true
        | '.' :: part => !part.isEmpty && part.all isDecimal
        | _ => false) := by
      unfold isDecimalNumber
      split
      · rename_i rest
        exact absurd ⟨rest, rfl⟩ hminus
      · rfl
    have hdigits : DecimalDigits cs := decimalDigits_of_span hwhole (hbody ▸ h)
    rw [hdigits.sign]
    exact hdigits

/-- Digits behind a sign are no integer exactly if there are too many of them. -/
theorem int?_eq_none_iff {cs : List Char} (htrim : trim cs = cs)
    (h : DecimalDigits (Numeral.sign cs).2) :
    Numeral.int? cs = none ↔ Numeral.digitLimit < (Numeral.sign cs).2.length := by
  rw [Numeral.int?_of_sign htrim h]
  simp

theorem FilterValue.exists_ofText_error_iff (raw : String) :
    (∃ e, FilterValue.ofText raw = .error e) ↔ FilterValue.Overlong raw.toList := by
  -- the words for truth values are tried first, but they are no numbers
  have htrue : isDecimalNumber "true".toList = false := by decide
  have hfalse : isDecimalNumber "false".toList = false := by decide
  simp only [FilterValue.ofText]
  constructor
  · rintro ⟨e, h⟩
    split at h
    · cases h
    · split at h
      · cases h
      · split at h
        · rename_i hnumber
          split at h
          · cases h
          · rename_i hwhole
            split at h
            · cases h
            · rename_i hnone
              have hdigits := decimalDigits_of_isDecimalNumber hnumber hwhole
              exact ⟨hnumber, hwhole,
                (int?_eq_none_iff (trim_trim _) hdigits).mp hnone⟩
        · cases h
  · rintro ⟨hnumber, hwhole, hdigits⟩
    have hnone := (int?_eq_none_iff (trim_trim _)
      (decimalDigits_of_isDecimalNumber hnumber hwhole)).mpr hdigits
    have hnottrue : trim raw.toList ≠ "true".toList := by
      intro h
      rw [h, htrue] at hnumber
      cases hnumber
    have hnotfalse : trim raw.toList ≠ "false".toList := by
      intro h
      rw [h, hfalse] at hnumber
      cases hnumber
    rw [if_neg hnottrue, if_neg hnotfalse, if_pos hnumber, if_neg hwhole, hnone]
    exact ⟨_, rfl⟩

/-- A clause compares with an integer that is too long. -/
def OverlongClause (clause : List Char) : Prop :=
  ∃ field comparator raw, clauseParts? clause = some (field, comparator, raw) ∧
    FilterValue.Overlong raw

theorem exists_readClauses_error_iff (clauses : List (List Char)) :
    (∃ e, readClauses clauses = .error e) ↔ ∃ clause ∈ clauses, OverlongClause clause := by
  induction clauses with
  | nil => simp [readClauses]
  | cons clause clauses ih =>
      simp only [readClauses, List.mem_cons, exists_eq_or_imp]
      split
      · rename_i hparts
        have hnot : ¬ OverlongClause clause := by
          rintro ⟨field, comparator, raw, hsome, -⟩
          rw [hparts] at hsome
          cases hsome
        rw [exists_map_eq_error, ih]
        simp [hnot]
      · rename_i field comparator raw hparts
        have hclause : OverlongClause clause ↔ FilterValue.Overlong raw := by
          constructor
          · rintro ⟨field', comparator', raw', hsome, hlong⟩
            rw [hparts] at hsome
            cases hsome
            exact hlong
          · intro hlong
            exact ⟨field, comparator, raw, hparts, hlong⟩
        rw [hclause]
        change (∃ e, Except.bind _ _ = _) ↔ _
        rw [exists_bind_eq_error, FilterValue.exists_ofText_error_iff, String.toList_ofList]
        constructor
        · rintro (hlong | ⟨value, -, hrest⟩)
          · exact Or.inl hlong
          · change ∃ e, Except.bind _ _ = _ at hrest
            rw [exists_bind_eq_error] at hrest
            rcases hrest with hrest | ⟨_, -, e, hpure⟩
            · exact Or.inr (ih.mp hrest)
            · cases hpure
        · rintro (hlong | hrest)
          · exact Or.inl hlong
          · -- the clauses behind are read only if this one was
            cases hvalue : FilterValue.ofText (String.ofList raw) with
            | error e =>
                left
                have h := (FilterValue.exists_ofText_error_iff (String.ofList raw)).mp ⟨e, hvalue⟩
                rwa [String.toList_ofList] at h
            | ok value =>
                right
                refine ⟨value, rfl, ?_⟩
                change ∃ e, Except.bind _ _ = _
                rw [exists_bind_eq_error]
                exact Or.inl (ih.mpr hrest)

/-! ## Targets and cascades -/

/-- The filter in the target of a cascade has a clause that compares with an integer that is too
long. -/
def OverlongTarget (target : List Char) : Prop :=
  ∃ before inside after, bracketed? target = some (before, inside, after) ∧
    ∃ clause ∈ filterClauses inside, OverlongClause clause

theorem exists_readTarget_error_iff (target : List Char) :
    (∃ e, readTarget target = .error e) ↔ OverlongTarget target := by
  unfold readTarget OverlongTarget
  cases hbracketed : bracketed? target with
  | none => simp [pure, Except.pure, bind, Except.bind]
  | some parts =>
      obtain ⟨before, inside, after⟩ := parts
      dsimp only
      change (∃ e, Except.bind _ _ = _) ↔ _
      rw [exists_bind_eq_error, readFilters, String.toList_ofList, exists_readClauses_error_iff]
      constructor
      · rintro (h | ⟨⟨filters, rejected⟩, -, e, hpure⟩)
        · exact ⟨before, inside, after, rfl, h⟩
        · cases hpure
      · rintro ⟨before, inside, after, hparts, h⟩
        cases hparts
        exact Or.inl h

/-- The text has an operator, and the filter behind it compares with an integer that is too long. -/
def Cascade.Overlong (text : String) : Prop :=
  ∃ before operator after,
    splitOperator? (withoutRoute text.toList).2 = some (before, operator, after) ∧
      OverlongTarget (trim after)

/-- **A cascade text cannot be read exactly if a number in its filter is too long.** -/
theorem Cascade.exists_read?_error_iff (text : String) :
    (∃ e, Cascade.read? text = .error e) ↔ Cascade.Overlong text := by
  unfold Cascade.read? Cascade.Overlong
  dsimp only
  cases hsplit : splitOperator? (withoutRoute text.toList).2 with
  | none => simp
  | some parts =>
      obtain ⟨before, operator, after⟩ := parts
      dsimp only
      change (∃ e, Except.bind _ _ = _) ↔ _
      rw [exists_bind_eq_error, exists_readTarget_error_iff]
      constructor
      · rintro (h | ⟨target, -, e, hpure⟩)
        · exact ⟨before, operator, after, rfl, h⟩
        · cases hpure
      · rintro ⟨before, operator, after, hparts, h⟩
        cases hparts
        exact Or.inl h

end Entity
