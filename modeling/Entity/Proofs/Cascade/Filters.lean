import Entity.Cascade.Reading
import Entity.Proofs.Number.Numeral
import Mathlib.Tactic.Common

/-!
# Printed filters

Filters are printed between square brackets, separated by commas, and read back clause by clause.
Main statement: canonical filters are read back as they are, none is rejected.
-/

namespace Entity

open Entity.Text

/-! ## Canonical filters -/

/-- A text that a filter can compare with: printed in a clause, it denotes itself. -/
structure ComparableText (s : String) : Prop where
  ne_empty : s ≠ ""
  trimmed : Text.trimmed s = s
  comma : ',' ∉ s.toList
  bracket : ']' ∉ s.toList
  line : '\n' ∉ s.toList
  ne_true : s ≠ "true"
  ne_false : s ≠ "false"
  number : isDecimalNumber s.toList = false
  equals : s.toList.head? ≠ some '='

/-- A value that a clause can compare with: a truth value, an integer that is not too long to be
read, or a comparable text. -/
def FilterValue.Canonical : FilterValue → Prop
  | .bool _ => True
  | .int n => (Nat.toDigits 10 n.natAbs).length ≤ Numeral.digitLimit
  | .float _ => False
  | .text s => ComparableText s

/-- A clause that compares a word with a canonical value. -/
structure Filter.Canonical (f : Filter) : Prop where
  field : Word f.field.toList
  value : f.value.Canonical

/-! ## Values -/

/-- What is printed for a value: a text that a clause can end with, and that denotes the value. -/
structure FilterValue.Printed (v : FilterValue) (cs : List Char) : Prop where
  start : SolidStart cs
  stop : SolidEnd cs
  comma : ',' ∉ cs
  bracket : ']' ∉ cs
  line : '\n' ∉ cs
  equals : cs.head? ≠ some '='
  read : FilterValue.ofText (String.ofList cs) = .ok v

theorem printed_bool (b : Bool) :
    (FilterValue.bool b).Printed (FilterValue.bool b).toText.toList := by
  cases b
  · exact ⟨⟨'f', _, rfl, rfl⟩, ⟨"fals".toList, 'e', rfl, rfl⟩, by decide, by decide, by decide,
      by decide, rfl⟩
  · exact ⟨⟨'t', _, rfl, rfl⟩, ⟨"tru".toList, 'e', rfl, rfl⟩, by decide, by decide, by decide,
      by decide, rfl⟩

/-- The text of an integer holds a minus and digits only. -/
theorem not_mem_toString_int {c : Char} (n : Int) (hc : c ≠ '-') (hd : c.isDigit = false) :
    c ∉ (toString n).toList := by
  rw [Numeral.toList_toString_int, List.mem_append, not_or]
  constructor
  · split <;> simp [hc]
  · intro hmem
    rw [Nat.isDigit_of_mem_toDigits (by decide) (by decide) hmem] at hd
    cases hd

theorem isDecimal_of_isDigit {c : Char} (h : c.isDigit = true) : isDecimal c = true := by
  rw [isDecimal, Numeral.decimalValue?_of_isDigit h]
  rfl

theorem span_isDecimal_toDigits (n : Nat) :
    (Nat.toDigits 10 n).span isDecimal = (Nat.toDigits 10 n, []) := by
  have hall : ∀ c ∈ Nat.toDigits 10 n, isDecimal c = true := fun c hc =>
    isDecimal_of_isDigit (Nat.isDigit_of_mem_toDigits (by decide) (by decide) hc)
  have h := span_append hall fun c (hc : ([] : List Char).head? = some c) => by cases hc
  rwa [List.append_nil] at h

theorem isDecimalNumber_toString_int (n : Int) :
    isDecimalNumber (toString n).toList = true := by
  have hne : (Nat.toDigits 10 n.natAbs).isEmpty = false := by
    simp [Nat.toDigits_ne_nil]
  have hminus : ∀ rest, Nat.toDigits 10 n.natAbs ≠ '-' :: rest := by
    intro rest hcs
    have hmem : '-' ∈ Nat.toDigits 10 n.natAbs := by
      rw [hcs]
      simp
    exact (Numeral.word_toDigits _).not_mem (by decide) hmem
  rw [Numeral.toList_toString_int]
  by_cases h : n < 0
  · rw [if_pos h, List.singleton_append]
    unfold isDecimalNumber
    split
    · rename_i rest heq
      cases heq
      dsimp only
      rw [span_isDecimal_toDigits]
      simp [hne]
    · rename_i heq
      exact absurd rfl (heq _)
  · rw [if_neg h, List.nil_append]
    unfold isDecimalNumber
    split
    · rename_i rest heq
      exact absurd heq (hminus rest)
    · dsimp only
      rw [span_isDecimal_toDigits]
      simp [hne]

theorem printed_int {n : Int} (h : (Nat.toDigits 10 n.natAbs).length ≤ Numeral.digitLimit) :
    (FilterValue.int n).Printed (FilterValue.int n).toText.toList := by
  have hsolid := Numeral.solid_toString_int n
  have hno : ∀ c : Char, c ≠ '-' → c.isDigit = false → c ∉ (toString n).toList :=
    fun c => not_mem_toString_int n
  show (FilterValue.int n).Printed (toString n).toList
  refine ⟨hsolid.1, hsolid.2, hno ',' (by decide) rfl, hno ']' (by decide) rfl,
    hno '\n' (by decide) rfl, ?_, ?_⟩
  · intro hhead
    exact hno '=' (by decide) rfl (List.mem_of_mem_head? hhead)
  · have ht : (toString n).toList ≠ "true".toList := by
      intro heq
      exact hno 't' (by decide) rfl (by rw [heq]; decide)
    have hf : (toString n).toList ≠ "false".toList := by
      intro heq
      exact hno 'f' (by decide) rfl (by rw [heq]; decide)
    rw [FilterValue.ofText, String.toList_ofList, trim_of_solid hsolid.1 hsolid.2]
    rw [if_neg ht, if_neg hf, if_pos (isDecimalNumber_toString_int n),
      if_neg (hno '.' (by decide) rfl), Numeral.int?_toString h]

theorem printed_text {s : String} (h : ComparableText s) :
    (FilterValue.text s).Printed (FilterValue.text s).toText.toList := by
  have htrim : trim s.toList = s.toList := by
    have htrimmed := congrArg String.toList h.trimmed
    rwa [Text.trimmed, String.toList_ofList] at htrimmed
  have hne : s.toList ≠ [] := by
    intro hnil
    exact h.ne_empty (String.toList_eq_nil_iff.mp hnil)
  obtain ⟨hs, he⟩ := solid_of_trim htrim hne
  refine ⟨hs, he, h.comma, h.bracket, h.line, h.equals, ?_⟩
  show FilterValue.ofText (String.ofList s.toList) = _
  have ht : s.toList ≠ "true".toList := fun heq => h.ne_true (String.toList_inj.mp heq)
  have hf : s.toList ≠ "false".toList := fun heq => h.ne_false (String.toList_inj.mp heq)
  rw [FilterValue.ofText, String.toList_ofList, htrim]
  rw [if_neg ht, if_neg hf, if_neg (by simp [h.number]), String.ofList_toList]

/-- Canonical values denote themselves. -/
theorem FilterValue.Canonical.printed {v : FilterValue} (h : v.Canonical) :
    v.Printed v.toText.toList := by
  cases v with
  | bool b => exact printed_bool b
  | int n => exact printed_int h
  | float x => exact absurd h id
  | text s => exact printed_text h

/-! ## The longest first -/

/-- What is found in a list with the largest elements in front was not found at a larger one. -/
theorem exists_largest_of_findSome? {α β : Type} {l : List α} {f : α → Option β} {size : α → Nat}
    {b : β} (hsorted : l.Pairwise fun a a' => size a' ≤ size a) (h : l.findSome? f = some b) :
    ∃ a ∈ l, f a = some b ∧ ∀ a' ∈ l, size a < size a' → f a' = none := by
  obtain ⟨tried, a, later, rfl, hfound, hpassed⟩ := List.findSome?_eq_some_iff.mp h
  refine ⟨a, by simp, hfound, fun a' ha' hlarger => ?_⟩
  rcases List.mem_append.mp ha' with ha' | ha'
  · exact hpassed a' ha'
  · rcases List.mem_cons.mp ha' with rfl | ha'
    · exact absurd hlarger (Nat.lt_irrefl _)
    · have hle := List.rel_of_pairwise_cons (List.pairwise_append.mp hsorted).2.1 ha'
      omega

/-! ## Clauses -/

theorem wordPrefix_append {cs rest : List Char} (h : Word cs)
    (hrest : ∀ c, rest.head? = some c → isWord c = false) :
    wordPrefix (cs ++ rest) = (cs, rest) :=
  span_append h.all hrest

/-- The token of a comparison begins with a character that is neither blank nor of a word. -/
theorem token_comparator (o : Comparator) : ∃ c rest, o.token.toList = c :: rest ∧
    isBlank c = false ∧ isWord c = false ∧ c ≠ ',' ∧ ',' ∉ rest ∧ c ≠ ']' ∧ ']' ∉ rest := by
  cases o
  · exact ⟨'=', [], rfl, by decide⟩
  · exact ⟨'!', ['='], rfl, by decide⟩
  · exact ⟨'>', ['='], rfl, by decide⟩
  · exact ⟨'<', ['='], rfl, by decide⟩
  · exact ⟨'>', [], rfl, by decide⟩
  · exact ⟨'<', [], rfl, by decide⟩

theorem valueText?_of_printed {v : FilterValue} {cs : List Char} (h : v.Printed cs) :
    valueText? cs = some cs := by
  have hne : cs.isEmpty = false := by
    simp [h.start.ne_nil]
  have hline : cs.contains '\n' = false := by
    simp [h.line]
  rw [valueText?, trimStart_of_solid h.start, hne, hline]
  rfl

/-- A comparison that is the start of a longer one is read as itself before a value. -/
theorem comparators_strict {c : Char} (hc : c ≠ '=') (rest : List Char) :
    comparators ('>' :: c :: rest) = [(.gt, c :: rest)] ∧
      comparators ('<' :: c :: rest) = [(.lt, c :: rest)] := by
  constructor
  · rw [comparators]
    intro rest' h
    cases h
    exact hc rfl
  · rw [comparators]
    intro rest' h
    cases h
    exact hc rfl

/-- The longest comparison is the printed one, as no value begins with an equals sign. -/
theorem findSome?_comparators {v : FilterValue} {cs : List Char} (h : v.Printed cs)
    (o : Comparator) (field : List Char) :
    ((comparators (o.token.toList ++ cs)).findSome? fun (comparator, after) =>
      (valueText? after).map fun value => (field, comparator, value)) = some (field, o, cs) := by
  have hvalue := valueText?_of_printed h
  obtain ⟨c, rest, rfl, _⟩ := h.start
  have hc : c ≠ '=' := by
    rintro rfl
    exact h.equals rfl
  have hstrict := comparators_strict hc rest
  -- only `>` and `<` begin a longer comparison
  cases o
  case gt =>
      show (comparators ('>' :: c :: rest)).findSome? _ = _
      rw [hstrict.1]
      simp [hvalue]
  case lt =>
      show (comparators ('<' :: c :: rest)).findSome? _ = _
      rw [hstrict.2]
      simp [hvalue]
  all_goals simp [Comparator.token, comparators, hvalue]

namespace Filter

variable {f : Filter}

/-- The characters of a clause. -/
theorem toList_toText (f : Filter) : f.toText.toList =
    f.field.toList ++ (f.comparator.token.toList ++ f.value.toText.toList) := by
  simp [toText, String.toList_append]

/-- A clause is solid, and it holds no character that ends it. -/
theorem Canonical.solid (h : f.Canonical) :
    SolidStart f.toText.toList ∧ SolidEnd f.toText.toList := by
  rw [toList_toText]
  exact ⟨h.field.solidStart.append _, (h.value.printed.stop.append _).append _⟩

theorem Canonical.not_mem (h : f.Canonical) :
    ',' ∉ f.toText.toList ∧ ']' ∉ f.toText.toList := by
  obtain ⟨c, rest, htoken, _, _, h1, h2, h3, h4⟩ := token_comparator f.comparator
  have hp := h.value.printed
  rw [toList_toText, htoken]
  simp only [List.mem_append, List.mem_cons, not_or]
  exact ⟨⟨h.field.not_mem (by decide), ⟨h1.symm, h2⟩, hp.comma⟩,
    ⟨h.field.not_mem (by decide), ⟨h3.symm, h4⟩, hp.bracket⟩⟩

/-- A printed clause has the parts that it was printed from. -/
theorem Canonical.clauseParts? (h : f.Canonical) : clauseParts? f.toText.toList =
    some (f.field.toList, f.comparator, f.value.toText.toList) := by
  obtain ⟨c, rest, htoken, hblank, hword, _⟩ := token_comparator f.comparator
  have hbegins : wordPrefix f.toText.toList =
      (f.field.toList, f.comparator.token.toList ++ f.value.toText.toList) := by
    rw [toList_toText]
    apply wordPrefix_append h.field
    intro c' hc'
    rw [htoken] at hc'
    cases hc'
    exact hword
  have hstart : SolidStart (f.comparator.token.toList ++ f.value.toText.toList) := by
    rw [htoken]
    exact ⟨c, _, rfl, hblank⟩
  have hfield : f.field.toList.isEmpty = false := by
    simpa using h.field.ne_nil
  rw [Entity.clauseParts?, hbegins]
  dsimp only
  rw [hfield, trimStart_of_solid hstart]
  exact findSome?_comparators h.value.printed _ _

end Filter

/-- Canonical clauses are read as they are. -/
theorem readClauses_map (fs : List Filter) (h : ∀ f ∈ fs, f.Canonical) :
    readClauses (fs.map fun f => f.toText.toList) = .ok (fs, []) := by
  induction fs with
  | nil => rfl
  | cons f fs ih =>
      have hf := h f (by simp)
      rw [List.map_cons, readClauses, hf.clauseParts?]
      dsimp only
      rw [hf.value.printed.read, ih fun g hg => h g (by simp [hg])]
      simp [bind, Except.bind, pure, Except.pure]

/-- The characters of filters between their brackets. -/
theorem toList_filterText (f : Filter) (fs : List Filter) :
    (Cascade.filterText (f :: fs)).toList =
      '[' :: (joinWith [',', ' '] ((f :: fs).map fun f => f.toText.toList) ++ [']']) := by
  simp [Cascade.filterText, join, String.toList_append, Function.comp_def]

/-- **Canonical filters are read back**, none is rejected. -/
theorem readFilters_joinWith {f : Filter} {fs : List Filter}
    (h : ∀ g ∈ f :: fs, g.Canonical) :
    readFilters (String.ofList (joinWith [',', ' '] ((f :: fs).map fun f => f.toText.toList))) =
      .ok (f :: fs, []) := by
  have hcomma : ∀ p ∈ (f :: fs).map fun g => g.toText.toList, ',' ∉ p := by
    intro p hp
    obtain ⟨g, hg, rfl⟩ := List.mem_map.mp hp
    exact (h g hg).not_mem.1
  -- every clause but the first has the blank after its comma in front
  have htrim : ∀ g ∈ fs, trim (' ' :: g.toText.toList) = g.toText.toList := fun g hg =>
    trim_cons_blank rfl (h g (by simp [hg])).solid.1 (h g (by simp [hg])).solid.2
  have hfirst : trim f.toText.toList = f.toText.toList :=
    trim_of_solid (h f (by simp)).solid.1 (h f (by simp)).solid.2
  have hrest : (((fs.map fun g => g.toText.toList).map ([' '] ++ ·)).map trim) =
      fs.map fun g => g.toText.toList := by
    rw [List.map_map, List.map_map]
    exact List.map_congr_left htrim
  have hkept : ∀ p ∈ (f :: fs).map fun g => g.toText.toList, decide (p ≠ []) = true := by
    intro p hp
    obtain ⟨g, hg, rfl⟩ := List.mem_map.mp hp
    exact decide_eq_true (h g hg).solid.1.ne_nil
  have hclauses : filterClauses (joinWith [',', ' '] ((f :: fs).map fun g => g.toText.toList)) =
      (f :: fs).map fun g => g.toText.toList := by
    rw [List.map_cons] at hcomma ⊢
    rw [filterClauses, splitAt_joinWith (by decide) hcomma, List.map_cons, hfirst, hrest]
    exact List.filter_eq_self.mpr hkept
  rw [readFilters, String.toList_ofList, hclauses, readClauses_map _ h]

end Entity
