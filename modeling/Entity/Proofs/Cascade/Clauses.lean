import Entity.Proofs.Cascade.Filters
import Entity.Proofs.Cascade.Overlong

/-!
# Clauses of filters

A filter text is cut at its commas into clauses, and a clause compares a word with a value or is
rejected.  Main statement: every clause is either read as the comparison that it is or rejected, in
order, unless one of them compares with an integer that is too long to be read.
-/

namespace Entity

open Entity.Text

/-! ## Comparisons in clauses -/

/-- A clause is a word, a comparison and a value on one line, with blanks around the comparison. -/
structure Decomposes (clause field : List Char) (o : Comparator) (raw : List Char) : Prop where
  word : Word field
  ne_nil : raw ≠ []
  line : '\n' ∉ raw
  split : ∃ before after, (∀ c ∈ before, isBlank c = true) ∧ (∀ c ∈ after, isBlank c = true) ∧
    clause = field ++ (before ++ (o.token.toList ++ (after ++ raw)))

/-- The word is as long as it can be, and so is the comparison if a value is to be left. -/
structure Compares (clause field : List Char) (o : Comparator) (raw : List Char) : Prop
    extends Decomposes clause field o raw where
  maximal : clause.takeWhile isWord = field
  longest : ∀ (before : List Char) (other : Comparator) (rest : List Char),
    (∀ c ∈ before, isBlank c = true) →
    clause = field ++ (before ++ (other.token.toList ++ rest)) → rest ≠ [] →
    other.token.length ≤ o.token.length

/-- The clause compares a word with a value. -/
def HasComparison (clause : List Char) : Prop := ∃ field o raw, Decomposes clause field o raw

/-- The filter is the comparison that the clause makes, with the value that its text denotes. -/
def ReadAs (clause : List Char) (f : Filter) : Prop :=
  ∃ raw, Compares clause f.field.toList f.comparator raw ∧
    FilterValue.ofText (String.ofList raw) = .ok f.value

open Classical in
/-- The clauses that compare are read as filters, the others are rejected, each in order. -/
structure Sorted (clauses : List (List Char)) (filters : List Filter) (rejected : List String) :
    Prop where
  accepted : List.Forall₂ ReadAs (clauses.filter HasComparison) filters
  rejected : rejected = (clauses.filter (¬ HasComparison ·)).map String.ofList

/-! ## Places of a clause -/

/-- A comparison that begins a text is one of those that are tried there. -/
theorem mem_comparators_iff {cs rest : List Char} {o : Comparator} :
    (o, rest) ∈ comparators cs ↔ cs = o.token.toList ++ rest := by
  constructor
  · intro h
    unfold comparators at h
    split at h <;> simp only [List.mem_cons, List.not_mem_nil, or_false, Prod.mk.injEq] at h
    case h_3 | h_4 => rcases h with ⟨rfl, rfl⟩ | ⟨rfl, rfl⟩ <;> rfl
    all_goals
      obtain ⟨rfl, rfl⟩ := h
      rfl
  · rintro rfl
    cases o
    case gt | lt =>
      cases rest with
      | nil => simp [Comparator.token, comparators]
      | cons c rest =>
          by_cases hc : c = '='
          · simp [Comparator.token, comparators, hc]
          · simp [Comparator.token, comparators_strict hc]
    all_goals simp [Comparator.token, comparators]

/-- Longer comparisons are tried first. -/
theorem pairwise_comparators (cs : List Char) : (comparators cs).Pairwise fun a b =>
    b.1.token.length ≤ a.1.token.length := by
  have hgt : Comparator.gt.token.length ≤ Comparator.ge.token.length := by decide
  have hlt : Comparator.lt.token.length ≤ Comparator.le.token.length := by decide
  unfold comparators
  split
  case h_3 => exact List.pairwise_pair.mpr hgt
  case h_4 => exact List.pairwise_pair.mpr hlt
  case h_7 => exact List.Pairwise.nil
  all_goals exact List.pairwise_singleton _ _

/-- After a comparison that is the start of a longer one comes an equals sign. -/
theorem eq_cons_of_longer {o other : Comparator} {after rest : List Char}
    (h : o.token.toList ++ after = other.token.toList ++ rest)
    (hlonger : o.token.length < other.token.length) : after = '=' :: rest := by
  cases other
  case eq | gt | lt => exact absurd hlonger (by cases o <;> decide)
  all_goals
    cases o
    case ne | ge | le => exact absurd hlonger (by decide)
    all_goals simp_all [Comparator.token]

theorem valueText?_eq_some_iff {rest raw : List Char} :
    valueText? rest = some raw ↔ trimStart rest = raw ∧ raw ≠ [] ∧ '\n' ∉ raw := by
  unfold valueText?
  constructor
  · intro h
    dsimp only at h
    split at h
    · cases h
    · cases h
      simp_all
  · rintro ⟨rfl, hne, hline⟩
    simp [hne, hline]

/-- A text that does not end with a blank has more than blanks in it. -/
theorem trimStart_ne_nil {cs : List Char} (h : SolidEnd cs) : trimStart cs ≠ [] := by
  obtain ⟨init, c, rfl, hc⟩ := h
  intro hnil
  have hblank := List.dropWhile_eq_nil_iff.mp hnil c (by simp)
  rw [hc] at hblank
  cases hblank

theorem solidEnd_of_append {cs ds : List Char} (h : SolidEnd (cs ++ ds)) (hne : ds ≠ []) :
    SolidEnd ds := by
  obtain ⟨init, c, heq, hc⟩ := h
  obtain ⟨more, d, rfl⟩ := List.eq_nil_or_concat' ds |>.resolve_left hne
  rw [← List.append_assoc] at heq
  obtain ⟨-, hlast⟩ := List.append_inj' heq rfl
  exact ⟨more, d, rfl, (List.cons.inj hlast).1 ▸ hc⟩

section Parts

variable {clause field before rest raw : List Char} {o : Comparator}

/-- Where a comparison stands behind a word and blanks, the word is the longest one and the blanks
are all that is there. -/
theorem places_of_split (hword : Word field) (hbefore : ∀ c ∈ before, isBlank c = true)
    (hclause : clause = field ++ (before ++ (o.token.toList ++ rest))) :
    wordPrefix clause = (field, before ++ (o.token.toList ++ rest)) ∧
      trimStart (before ++ (o.token.toList ++ rest)) = o.token.toList ++ rest := by
  obtain ⟨c, token, htoken, hblank, hnoword, -⟩ := token_comparator o
  constructor
  · rw [hclause]
    refine wordPrefix_append hword fun d hd => ?_
    cases before with
    | nil =>
        rw [List.nil_append, htoken] at hd
        cases hd
        exact hnoword
    | cons b before =>
        cases hd
        by_contra hd
        have hsolid := isBlank_of_isWord (by simpa using hd)
        rw [hbefore d (by simp)] at hsolid
        cases hsolid
  · rw [trimStart, List.dropWhile_append_of_pos hbefore, htoken]
    exact trimStart_cons hblank

/-- The parts that are read are a comparison of the clause. -/
theorem compares_of_clauseParts? (hend : SolidEnd clause)
    (h : clauseParts? clause = some (field, o, raw)) : Compares clause field o raw := by
  rw [clauseParts?, wordPrefix, List.span_eq_takeWhile_dropWhile] at h
  dsimp only at h
  split at h
  · cases h
  rename_i hfield
  obtain ⟨⟨found, after⟩, hmem, hfound, hpassed⟩ :=
    exists_largest_of_findSome? (pairwise_comparators _) h
  obtain ⟨value, hvalue, heq⟩ := Option.map_eq_some_iff.mp hfound
  cases heq
  obtain ⟨hraw, hne, hline⟩ := valueText?_eq_some_iff.mp hvalue
  have htail := mem_comparators_iff.mp hmem
  have hword : Word (clause.takeWhile isWord) :=
    ⟨by simpa using hfield, fun c hc => List.mem_takeWhile_imp hc⟩
  refine ⟨⟨hword, hne, hline, (clause.dropWhile isWord).takeWhile isBlank,
    after.takeWhile isBlank, fun c hc => List.mem_takeWhile_imp hc,
    fun c hc => List.mem_takeWhile_imp hc, ?_⟩, rfl, ?_⟩
  · rw [← hraw, trimStart, List.takeWhile_append_dropWhile, ← htail, trimStart,
      List.takeWhile_append_dropWhile, List.takeWhile_append_dropWhile]
  · intro before other rest hbefore hclause hrest
    by_contra hlonger
    -- a longer comparison was tried first, and no value was found behind it
    obtain ⟨hcut, hplace⟩ := places_of_split hword hbefore hclause
    rw [wordPrefix, List.span_eq_takeWhile_dropWhile] at hcut
    rw [(Prod.mk.inj hcut).2, hplace] at htail hpassed
    have hlonger : found.token.length < other.token.length := Nat.lt_of_not_le hlonger
    have hnone : valueText? rest = none :=
      Option.map_eq_none_iff.mp (hpassed (other, rest) (mem_comparators_iff.mpr rfl) hlonger)
    have hsolid : SolidEnd rest := by
      rw [hclause, ← List.append_assoc, ← List.append_assoc] at hend
      exact solidEnd_of_append hend hrest
    have hrestline : '\n' ∈ trimStart rest := by
      by_contra hno
      rw [valueText?_eq_some_iff.mpr ⟨rfl, trimStart_ne_nil hsolid, hno⟩] at hnone
      cases hnone
    -- the value after the shorter comparison holds what stands after the longer one
    rw [eq_cons_of_longer htail.symm hlonger, trimStart_cons (by decide)] at hraw
    refine hline ?_
    rw [← hraw]
    exact List.mem_cons_of_mem _ ((List.dropWhile_suffix isBlank).subset hrestline)

/-- A clause without parts makes no comparison. -/
theorem not_hasComparison_of_clauseParts? (hend : SolidEnd clause)
    (h : clauseParts? clause = none) : ¬ HasComparison clause := by
  rintro ⟨field, o, raw, hword, hne, hline, before, after, hbefore, hafter, hclause⟩
  obtain ⟨hcut, hplace⟩ := places_of_split hword hbefore hclause
  rw [clauseParts?, hcut] at h
  dsimp only at h
  rw [if_neg (by simpa using hword.ne_nil), hplace] at h
  have hnone := List.findSome?_eq_none_iff.mp h (o, after ++ raw) (mem_comparators_iff.mpr rfl)
  have hdrop : trimStart (after ++ raw) = trimStart raw := List.dropWhile_append_of_pos hafter
  have hsolid : SolidEnd raw := by
    rw [hclause, ← List.append_assoc, ← List.append_assoc, ← List.append_assoc] at hend
    exact solidEnd_of_append hend hne
  have hvalue : valueText? (after ++ raw) = some (trimStart raw) :=
    valueText?_eq_some_iff.mpr ⟨hdrop, trimStart_ne_nil hsolid,
      fun hmem => hline ((List.dropWhile_suffix isBlank).subset hmem)⟩
  rw [hvalue] at hnone
  cases hnone

/-! ## Lists of clauses -/

theorem Sorted.nil : Sorted [] [] [] := ⟨.nil, rfl⟩

theorem Sorted.accept {clauses : List (List Char)} {filters : List Filter} {rejected : List String}
    {f : Filter} (h : Sorted clauses filters rejected) (hread : ReadAs clause f) :
    Sorted (clause :: clauses) (f :: filters) rejected := by
  obtain ⟨raw, hcompares, hvalue⟩ := hread
  have hcomparison : HasComparison clause := ⟨_, _, _, hcompares.toDecomposes⟩
  constructor
  · rw [List.filter_cons_of_pos (by simpa using hcomparison)]
    exact .cons ⟨raw, hcompares, hvalue⟩ h.accepted
  · rw [List.filter_cons_of_neg (by simpa using hcomparison)]
    exact h.rejected

theorem Sorted.reject {clauses : List (List Char)} {filters : List Filter} {rejected : List String}
    (h : Sorted clauses filters rejected) (hnone : ¬ HasComparison clause) :
    Sorted (clause :: clauses) filters (String.ofList clause :: rejected) := by
  constructor
  · rw [List.filter_cons_of_neg (by simpa using hnone)]
    exact h.accepted
  · rw [List.filter_cons_of_pos (by simpa using hnone), List.map_cons, h.rejected]

/-- What is read from clauses without blanks at their ends is sorted. -/
theorem sorted_of_readClauses {clauses : List (List Char)} {filters : List Filter}
    {rejected : List String} (hends : ∀ clause ∈ clauses, SolidEnd clause)
    (h : readClauses clauses = .ok (filters, rejected)) : Sorted clauses filters rejected := by
  induction clauses generalizing filters rejected with
  | nil =>
      cases h
      exact .nil
  | cons clause clauses ih =>
      have hend := hends clause (by simp)
      have hrest : ∀ clause ∈ clauses, SolidEnd clause := fun c hc => hends c (by simp [hc])
      rw [readClauses] at h
      split at h
      · rename_i hnone
        obtain ⟨⟨fs, rs⟩, hread, heq⟩ := map_eq_ok.mp h
        cases heq
        exact (ih hrest hread).reject (not_hasComparison_of_clauseParts? hend hnone)
      · rename_i field o raw hparts
        obtain ⟨value, hvalue, h⟩ := bind_eq_ok.mp h
        obtain ⟨⟨fs, rs⟩, hread, heq⟩ := bind_eq_ok.mp h
        cases heq
        have hcompares := compares_of_clauseParts? hend hparts
        refine (ih hrest hread).accept ⟨raw, ?_, hvalue⟩
        rwa [String.toList_ofList]

theorem solidEnd_of_mem_filterClauses {cs : List Char} (h : clause ∈ filterClauses cs) :
    SolidEnd clause := by
  obtain ⟨hmem, hne⟩ := List.mem_filter.mp h
  obtain ⟨piece, -, rfl⟩ := List.mem_map.mp hmem
  exact (solid_trim (by simpa using hne)).2

/-! ## Values -/

theorem trim_append_of_blank {blanks cs : List Char} (h : ∀ c ∈ blanks, isBlank c = true) :
    trim (blanks ++ cs) = trim cs := by
  rw [trim, trimStart, List.dropWhile_append_of_pos h]
  rfl

/-- Two decompositions with longest parts have the same value. -/
theorem Compares.trim_eq {field' raw' : List Char} {o' : Comparator}
    (h : Compares clause field o raw) (h' : Compares clause field' o' raw') :
    trim raw = trim raw' := by
  obtain ⟨⟨hword, hne, -, before, after, hbefore, hafter, hclause⟩, hmaximal, hlongest⟩ := h
  obtain ⟨⟨hword', hne', -, before', after', hbefore', hafter', hclause'⟩, hmaximal', hlongest'⟩ :=
    h'
  obtain rfl : field = field' := hmaximal.symm.trans hmaximal'
  obtain ⟨hcut, hplace⟩ := places_of_split hword hbefore hclause
  obtain ⟨hcut', hplace'⟩ := places_of_split hword' hbefore' hclause'
  have hrest := (Prod.mk.inj (hcut.symm.trans hcut')).2
  rw [hrest, hplace'] at hplace
  have hle := hlongest before' o' (after' ++ raw') hbefore' hclause' (by simp [hne'])
  have hle' := hlongest' before o (after ++ raw) hbefore hclause (by simp [hne])
  have hlength : o'.token.toList.length = o.token.toList.length := by
    rw [String.length_toList, String.length_toList]
    omega
  have hvalues := (List.append_inj hplace hlength).2
  rw [← trim_append_of_blank hafter, ← hvalues, trim_append_of_blank hafter']

theorem FilterValue.overlong_congr {raw' : List Char} (h : trim raw = trim raw') :
    FilterValue.Overlong raw ↔ FilterValue.Overlong raw' := by
  constructor
  · rintro ⟨hnumber, hwhole, hdigits⟩
    rw [h] at hnumber hwhole hdigits
    exact ⟨hnumber, hwhole, hdigits⟩
  · rintro ⟨hnumber, hwhole, hdigits⟩
    rw [← h] at hnumber hwhole hdigits
    exact ⟨hnumber, hwhole, hdigits⟩

/-- A clause is too long exactly if its decomposition has a value that is. -/
theorem overlongClause_iff (hend : SolidEnd clause) : OverlongClause clause ↔
    ∃ field o raw, Compares clause field o raw ∧ FilterValue.Overlong raw := by
  constructor
  · rintro ⟨field, o, raw, hparts, hlong⟩
    exact ⟨field, o, raw, compares_of_clauseParts? hend hparts, hlong⟩
  · rintro ⟨field, o, raw, hcompares, hlong⟩
    cases hparts : clauseParts? clause with
    | none =>
        exact absurd ⟨field, o, raw, hcompares.toDecomposes⟩
          (not_hasComparison_of_clauseParts? hend hparts)
    | some parts =>
        obtain ⟨field', o', raw'⟩ := parts
        have htrim := hcompares.trim_eq (compares_of_clauseParts? hend hparts)
        exact ⟨field', o', raw', hparts, (FilterValue.overlong_congr htrim).mp hlong⟩

/-- **No clause of a filter is lost or misread.**  The clauses that compare a word with a value are
read as filters with the longest word, the longest comparison and the value that its text denotes;
all others are rejected; both keep their order.  This is so unless a clause compares with an integer
that has too many digits to be read. -/
theorem filters_sorted_iff (text : String) :
    (∃ filters rejected, readFilters text = .ok (filters, rejected) ∧
      Sorted (filterClauses text.toList) filters rejected) ↔
    ∀ clause ∈ filterClauses text.toList, ∀ field o raw, Compares clause field o raw →
      ¬ FilterValue.Overlong raw := by
  have herror := exists_readClauses_error_iff (filterClauses text.toList)
  constructor
  · rintro ⟨filters, rejected, hread, -⟩ clause hmem field o raw hcompares hlong
    have hclause := (overlongClause_iff (solidEnd_of_mem_filterClauses hmem)).mpr
      ⟨field, o, raw, hcompares, hlong⟩
    obtain ⟨e, he⟩ := herror.mpr ⟨clause, hmem, hclause⟩
    rw [readFilters, he] at hread
    cases hread
  · intro hshort
    cases hread : readFilters text with
    | error e =>
        obtain ⟨clause, hmem, hclause⟩ := herror.mp ⟨e, hread⟩
        obtain ⟨field, o, raw, hcompares, hlong⟩ :=
          (overlongClause_iff (solidEnd_of_mem_filterClauses hmem)).mp hclause
        exact absurd hlong (hshort clause hmem field o raw hcompares)
    | ok lists =>
        exact ⟨lists.1, lists.2, rfl,
          sorted_of_readClauses (fun clause => solidEnd_of_mem_filterClauses) hread⟩

/-- A comparison is read as the longest one that leaves a value. -/
example : readFilters "mrr >= 5, note,, tier>=" =
    .ok ([⟨"mrr", .ge, .int 5⟩, ⟨"tier", .gt, .text "="⟩], ["note"]) := rfl

end Parts

/-! ### A clause that is too long -/

namespace Nines

/-- A filter that compares with `n` nines. -/
def clause (n : Nat) : List Char := 'a' :: '=' :: List.replicate n '9'

theorem word_replicate {n : Nat} (h : 0 < n) : Word (List.replicate n '9') := by
  refine ⟨?_, fun c hc => ?_⟩
  · intro hnil
    rw [List.replicate_eq_nil_iff] at hnil
    omega
  · rw [List.eq_of_mem_replicate hc]
    decide

theorem not_mem_clause (n : Nat) {c : Char} (hword : isWord c = false) (hc : c ≠ '=') :
    c ∉ clause n := by
  have hne : ∀ d, isWord d = true → c ≠ d := by
    rintro d hd rfl
    rw [hword] at hd
    cases hd
  simp only [clause, List.mem_cons, not_or]
  refine ⟨hne 'a' (by decide), hc, fun hmem => ?_⟩
  exact hne '9' (by decide) (List.eq_of_mem_replicate hmem)

theorem overlong_replicate {n : Nat} (h : Numeral.digitLimit < n) :
    FilterValue.Overlong (List.replicate n '9') := by
  have hdigits := Numeral.decimalDigits_replicate (by omega : 0 < n)
  have hall := hdigits.all
  have htrim := hdigits.trim_eq
  refine ⟨?_, ?_, ?_⟩
  · have hspan : (List.replicate n '9').span isDecimal = (List.replicate n '9', []) := by
      have happend := span_append hall fun c (hc : ([] : List Char).head? = some c) => by cases hc
      rwa [List.append_nil] at happend
    obtain ⟨k, rfl⟩ : ∃ k, n = k + 1 := ⟨n - 1, by omega⟩
    rw [htrim]
    rw [List.replicate_succ] at hspan ⊢
    unfold isDecimalNumber
    split
    · rename_i hminus
      cases hminus
    · dsimp only
      rw [hspan]
      rfl
  · rw [htrim]
    exact fun hpoint => absurd (List.eq_of_mem_replicate hpoint) (by decide)
  · rw [htrim, hdigits.sign, List.length_replicate]
    exact h

theorem clauseParts?_clause {n : Nat} (h : 0 < n) :
    clauseParts? (clause n) = some (['a'], .eq, List.replicate n '9') := by
  have hword := word_replicate h
  have hfield : wordPrefix (clause n) = (['a'], '=' :: List.replicate n '9') := by
    have hfirst : Word ['a'] := word_of_all (by decide) (by decide)
    refine wordPrefix_append hfirst ?_
    rintro c ⟨⟩
    decide
  have hvalue : valueText? (List.replicate n '9') = some (List.replicate n '9') :=
    valueText?_eq_some_iff.mpr ⟨trimStart_of_solid hword.solidStart, hword.ne_nil, by simp⟩
  rw [clauseParts?, hfield]
  dsimp only
  rw [trimStart_cons (by decide), comparators]
  simp [hvalue]

theorem overlongClause {n : Nat} (h : Numeral.digitLimit < n) : OverlongClause (clause n) :=
  ⟨['a'], .eq, List.replicate n '9', clauseParts?_clause (by omega), overlong_replicate h⟩

theorem solid_clause {n : Nat} (h : 0 < n) : SolidStart (clause n) ∧ SolidEnd (clause n) :=
  ⟨⟨'a', _, rfl, rfl⟩, (word_replicate h).solidEnd.append ['a', '=']⟩

/-- A filter text without commas is one clause. -/
theorem filterClauses_clause {n : Nat} (h : 0 < n) : filterClauses (clause n) = [clause n] := by
  rw [filterClauses, splitAt_of_not_mem (not_mem_clause n (by decide) (by decide)),
    List.map_singleton, trim_of_solid (solid_clause h).1 (solid_clause h).2]
  rfl

end Nines

/-- The only clause of a filter text compares a word with a value, but the value is an integer that
is too long, and the text is not read. -/
theorem filters_unread_nines :
    (∃ e, readFilters (String.ofList (Nines.clause 4301)) = .error e) ∧
      filterClauses (Nines.clause 4301) = [Nines.clause 4301] ∧
      Compares (Nines.clause 4301) ['a'] .eq (List.replicate 4301 '9') := by
  have hclauses := Nines.filterClauses_clause (by decide : 0 < 4301)
  refine ⟨?_, hclauses, ?_⟩
  · rw [readFilters, String.toList_ofList, hclauses, exists_readClauses_error_iff]
    exact ⟨_, List.mem_singleton_self _, Nines.overlongClause (by decide)⟩
  · exact compares_of_clauseParts? (Nines.solid_clause (by decide)).2
      (Nines.clauseParts?_clause (by decide))

end Entity
