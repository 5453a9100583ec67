import Entity.Module.Text
import Entity.Proofs.Entries
import Entity.Proofs.Outcome
import Mathlib.Data.List.Forall2

/-!
# The tables of a module

A field has at most one entry in each table, and the tables are gathered field by field.  Main
statements: fields with the same entries have the same tables, and conversely tables that are the
same have the same entry for every field; a stand-in for code that is missing is no other entry.
-/

namespace Entity.Module

open Entity.Text

/-! ## Gathering entries -/

/-- The entries of the two tables of a module. -/
def code (d : Definition) : Outcome (List (String × Entry) × List (String × Entry)) := do
  let computes ← computeEntries d.functions
  let filters ← filterEntries d.cascades
  return (computes, filters)

/-- A module is its code and its metadata. -/
theorem generate_eq (d : Definition) (exportName : Option String) : generate d exportName = do
    let (computes, filters) ← code d
    let data ← metadata d
    let name := (nonEmpty? exportName).getD d.type
    return lines (headLines d ++ bodyLines data computes filters ++ [exportLine name, ""]) := by
  simp only [generate, code, bind_assoc, pure_bind]

/-- A module that is generated has its metadata and its two tables. -/
theorem exists_eq_lines {d : Definition} {exportName : Option String} {text : String}
    (h : (generate d exportName).result = .ok text) :
    ∃ data computes filters, metadata d = .ok data ∧ (code d).result = .ok (computes, filters) ∧
      text = lines (headLines d ++ bodyLines data computes filters ++
        [exportLine ((nonEmpty? exportName).getD d.type), ""]) := by
  rw [generate_eq, Outcome.result_bind, bind_eq_ok] at h
  obtain ⟨⟨computes, filters⟩, hcode, h⟩ := h
  rw [Outcome.result_bind, bind_eq_ok] at h
  obtain ⟨data, hdata, h⟩ := h
  change (monadLift (metadata d) : Outcome Value).result = .ok data at hdata
  rw [Outcome.result_lift] at hdata
  cases h
  exact ⟨data, computes, filters, hdata, hcode, rfl⟩

/-- The entry of a field in the table of compute functions, if it has one. -/
def computeEntry (name : String) (f : Field) : Outcome (Option Entry) :=
  match f.function? with
  | some (.computation c) => some <$> Entry.ofCode .compute name c.text?
  | _ => return none

/-- The entry of a field in the table of link filters, if it has one. -/
def filterEntry (name : String) (f : Field) : Outcome (Option Entry) :=
  match f.cascade with
  | some c => Entry.ofLink name c
  | none => return none

/-- The entries of all fields that have one, under the names of the fields. -/
def gathered (entry : String → Field → Outcome (Option Entry)) :
    Entries String Field → Outcome (List (String × Entry))
  | [] => return []
  | (name, f) :: fs => do
    match ← entry name f with
    | some e => return (name, e) :: (← gathered entry fs)
    | none => gathered entry fs

theorem computeEntries_functions (d : Definition) :
    computeEntries d.functions = gathered computeEntry d.fields := by
  unfold Definition.functions
  induction d.fields with
  | nil => rfl
  | cons e fs ih =>
      obtain ⟨name, f⟩ := e
      rw [gathered, computeEntry]
      cases hf : f.function? with
      | none =>
          rw [List.filterMap_cons_none (by simp [hf]), ih]
          rfl
      | some g =>
          rw [List.filterMap_cons_some (by simp only [hf, Option.map_some]; rfl)]
          cases g with
          | generation g =>
              rw [computeEntries, ih]
              rfl
          | computation c => simp only [computeEntries, ih, map_eq_pure_bind, bind_assoc, pure_bind]

theorem filterEntries_cascadesOf (fs : Entries String Field) :
    filterEntries (cascadesOf fs) = gathered filterEntry fs := by
  unfold cascadesOf
  induction fs with
  | nil => rfl
  | cons e fs ih =>
      obtain ⟨name, f⟩ := e
      rw [gathered, filterEntry]
      cases hc : f.cascade with
      | none =>
          rw [List.filterMap_cons_none (by simp [hc]), ih]
          rfl
      | some c =>
          rw [List.filterMap_cons_some (by simp only [hc, Option.map_some]; rfl), filterEntries]
          refine bind_congr fun o => ?_
          cases o with
          | none => exact ih
          | some e => simp only [ih]

section Gathered

variable {entry : String → Field → Outcome (Option Entry)}

/-- Fields with the same entries have the same table. -/
theorem gathered_congr {fs fs' : Entries String Field}
    (h : List.Forall₂ (fun e e' => e'.1 = e.1 ∧ entry e.1 e'.2 = entry e.1 e.2) fs fs') :
    gathered entry fs' = gathered entry fs := by
  induction h with
  | nil => rfl
  | @cons e e' fs fs' he _ ih =>
      obtain ⟨name, f⟩ := e
      obtain ⟨name', f'⟩ := e'
      obtain ⟨rfl, hentry⟩ := he
      rw [gathered, gathered, hentry, ih]

theorem gathered_cons_eq_ok {name : String} {f : Field} {fs : Entries String Field}
    {t : List (String × Entry)} : (gathered entry ((name, f) :: fs)).result = .ok t ↔
      ∃ o rest, (entry name f).result = .ok o ∧ (gathered entry fs).result = .ok rest ∧
        t = (o.map fun e => (name, e)).toList ++ rest := by
  rw [gathered, Outcome.result_bind, bind_eq_ok]
  refine exists_congr fun o => ?_
  cases o with
  | none => simp
  | some e =>
      simp only [Outcome.result_bind, Outcome.result_pure, bind_eq_ok, exists_and_left]
      simp [eq_comm]

/-- A table has entries for fields only. -/
theorem mem_keys_of_gathered {fs : Entries String Field} {t : List (String × Entry)}
    (h : (gathered entry fs).result = .ok t) : ∀ r ∈ t, r.1 ∈ Entries.keys fs := by
  induction fs generalizing t with
  | nil =>
      cases h
      simp
  | cons e fs ih =>
      obtain ⟨name, f⟩ := e
      obtain ⟨o, rest, -, hrest, rfl⟩ := gathered_cons_eq_ok.mp h
      intro r hr
      rcases List.mem_append.mp hr with hr | hr
      · obtain ⟨e, -, rfl⟩ : ∃ e, o = some e ∧ (name, e) = r := by simpa using hr
        exact List.mem_cons_self
      · exact List.mem_cons_of_mem _ (ih hrest r hr)

/-- Tables of fields under the same distinct names are the same only if every field has the same
entry in both. -/
theorem forall₂_of_gathered_eq {fs fs' : Entries String Field}
    (hnames : List.Forall₂ (fun e e' => e'.1 = e.1) fs fs') (hnodup : (Entries.keys fs).Nodup)
    {t : List (String × Entry)} (h : (gathered entry fs).result = .ok t)
    (h' : (gathered entry fs').result = .ok t) :
    List.Forall₂ (fun e e' => ∃ o, (entry e.1 e.2).result = .ok o ∧
      (entry e.1 e'.2).result = .ok o) fs fs' := by
  induction hnames generalizing t with
  | nil => exact .nil
  | @cons e e' fs fs' hname hrest ih =>
      obtain ⟨name, f⟩ := e
      obtain ⟨name', f'⟩ := e'
      obtain rfl : name' = name := hname
      obtain ⟨hnew, hnodup⟩ := List.nodup_cons.mp hnodup
      have hkeys : Entries.keys fs' = Entries.keys fs := by
        refine List.forall₂_eq_eq_eq ▸ ?_
        exact List.forall₂_map_left_iff.mpr (List.forall₂_map_right_iff.mpr hrest.flip)
      obtain ⟨o, rest, ho, hgathered, rfl⟩ := gathered_cons_eq_ok.mp h
      obtain ⟨o', rest', ho', hgathered', heq⟩ := gathered_cons_eq_ok.mp h'
      -- the names are distinct, so that an entry under the name of the first field is its own
      have hout : ∀ e, (name', e) ∉ rest := by
        intro e he
        exact hnew (mem_keys_of_gathered hgathered _ he)
      have hout' : ∀ e, (name', e) ∉ rest' := by
        intro e he
        have hmem := mem_keys_of_gathered hgathered' _ he
        rw [hkeys] at hmem
        exact hnew hmem
      have hsame : o = o' ∧ rest = rest' := by
        cases o with
        | none => cases o' with
          | none => exact ⟨rfl, by simpa using heq⟩
          | some e' =>
              have heq : rest = (name', e') :: rest' := by simpa using heq
              exact absurd (heq ▸ List.mem_cons_self) (hout e')
        | some e => cases o' with
          | none =>
              have heq : (name', e) :: rest = rest' := by simpa using heq
              exact absurd (heq ▸ List.mem_cons_self) (hout' e)
          | some e' => simpa using heq
      obtain ⟨rfl, rfl⟩ := hsame
      exact .cons ⟨o, ho, ho'⟩ (ih hnodup hgathered hgathered')

end Gathered

/-! ## Missing code -/

theorem codeEscape_ne_nil (n : Nat) : codeEscape n ≠ [] := by
  unfold codeEscape
  split
  · simp
  · split <;> simp

theorem quotedChar_ne_nil (quote c : Char) : quotedChar quote c ≠ [] := by
  unfold quotedChar
  repeat' split
  all_goals first
    | exact codeEscape_ne_nil _
    | simp

theorem quoted_eq_quoted_empty {s : String} (h : quoted s = quoted "") : s = "" := by
  have hchars : quotedChars s.toList = quotedChars [] := by
    simpa [quoted] using congrArg String.toList h
  cases hs : s.toList with
  | nil => exact String.toList_eq_nil_iff.mp hs
  | cons c cs =>
      have hlength := congrArg List.length hchars
      -- a first character would make the text longer than its two quotes
      have hc := List.length_pos_iff.mpr (quotedChar_ne_nil (quoteFor (c :: cs)) c)
      simp only [hs, quotedChars, List.flatMap_cons, List.flatMap_nil, List.length_cons,
        List.length_append, List.length_nil] at hlength
      omega

/-- Texts that begin with different characters differ. -/
theorem append_ne_append {s t : String} {c d : Char} (hs : s.toList.head? = some c)
    (ht : t.toList.head? = some d) (hne : c ≠ d) (s' t' : String) : s ++ s' ≠ t ++ t' := by
  intro h
  have hhead := congrArg (fun u => u.toList.head?) h
  simp only [String.toList_append, List.head?_append, hs, ht, Option.some_or] at hhead
  exact hne (Option.some.inj hhead)

/-- The stand-in for missing code is no stand-in for code. -/
theorem eq_empty_of_unavailable {field code : String}
    (h : unavailable field code = unavailable field "") : code = "" := by
  injection h with htext
  rw [String.append_left_inj, String.append_right_inj] at htext
  exact quoted_eq_quoted_empty htext

/-- A function of the table or one in brackets is no stand-in. -/
theorem ne_unavailable_of_ofFunction {table : EntryTable} {field code : String}
    (hcode : code ≠ "") {text : List Char} {e : Entry}
    (h : Entry.ofFunction table field code text = .ok e) : e ≠ unavailable field "" := by
  unfold Entry.ofFunction at h
  split at h
  · cases h
    intro heq
    injection heq with htext
    simp only [String.append_assoc] at htext
    exact append_ne_append rfl rfl (by decide) _ _ htext
  · obtain ⟨name, -, h⟩ := bind_eq_ok.mp h
    cases name with
    | none =>
        cases h
        intro heq
        exact hcode (eq_empty_of_unavailable heq)
    | some name =>
        cases h
        intro heq
        injection heq with _ hfunctions
        cases hfunctions

/-- The entry of code that is there is not the stand-in for missing code. -/
theorem ne_unavailable_of_ofCode {table : EntryTable} {field code : String} (hcode : code ≠ "")
    {e : Entry} (h : (Entry.ofCode table field (some code)).result = .ok e) :
    e ≠ unavailable field "" := by
  have hsome : nonEmpty? (some code) = some code := by
    simp [nonEmpty?, hcode]
  simp only [Entry.ofCode, hsome] at h
  split at h
  · exact ne_unavailable_of_ofFunction hcode h
  · split at h
    · cases h
      intro heq
      exact hcode (eq_empty_of_unavailable heq)
    · cases h

/-- Code is looked at only as far as it is there and not empty. -/
theorem ofCode_congr (table : EntryTable) (field : String) {text text' : Option String}
    (h : nonEmpty? text = nonEmpty? text') :
    Entry.ofCode table field text = Entry.ofCode table field text' := by
  simp only [Entry.ofCode, h]

theorem result_ofCode_missing (table : EntryTable) (field : String) {text : Option String}
    (h : nonEmpty? text = none) :
    (Entry.ofCode table field text).result = .ok (unavailable field "") := by
  simp only [Entry.ofCode, h, Outcome.result_bind, Outcome.result_warn]
  rfl

/-! ## Conditions -/

/-- The condition on the instances of a cascade, if it has one. -/
def condition? (c : Cascade) : Option String :=
  match conditionCodes c with
  | [] => none
  | codes => some (join " and " codes)

/-- The entry for a condition. -/
def Entry.ofCondition (code : String) : Entry :=
  { text := "(lambda item, context=None: " ++ code ++ ")" }

theorem ofLink_eq (field : String) (c : Cascade) : Entry.ofLink field c =
    match c.selector with
    | some s => some <$> Entry.ofCode .filter field s.text?
    | none => return (condition? c).map Entry.ofCondition := by
  rw [Entry.ofLink]
  cases c.selector with
  | some s => exact (map_eq_pure_bind _ _).symm
  | none =>
      rw [condition?]
      cases conditionCodes c <;> rfl

theorem ofCondition_inj {code code' : String}
    (h : Entry.ofCondition code = Entry.ofCondition code') : code = code' := by
  injection h with htext
  rw [String.append_left_inj, String.append_right_inj] at htext
  exact htext

theorem ofCondition_ne_unavailable (code field : String) :
    Entry.ofCondition code ≠ unavailable field "" := by
  intro h
  injection h with htext
  simp only [String.append_assoc] at htext
  exact append_ne_append rfl rfl (by decide) _ _ htext

end Entity.Module
