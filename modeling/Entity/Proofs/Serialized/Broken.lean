import Entity.Proofs.Field.Fault
import Entity.Proofs.Serialized.Raw

/-!
# Entries that cannot be taken apart

A definition is rebuilt from entries of fields, and an entry may be of any shape.  Main statements:
what stands for an entry is found, unless it is no mapping, has options that are no pairs, a source
that names nothing, alternatives that are no texts, or a member of this kind; and what fails is a
fault of a value, which has no explanation.
-/

namespace Entity

open Entries

/-! ## Options and alternatives -/

namespace Value

/-- What a value can be gone through for: the items of a list, the keys of a mapping, or the
characters of a text. -/
def parts? : Value → Option (List Value)
  | list items => some items
  | tuple items => some items
  | map entries => some (entries.map fun e => .text e.1)
  | text s => some (s.toList.map fun c => .text (String.ofList [c]))
  | _ => none

/-- The value has two parts, of which the first can be a key. -/
def IsPair (v : Value) : Prop := ∃ k w, v.parts? = some [k, w] ∧ isHashable k = true

/-- The value can be taken for options: it is empty, a mapping, or has only pairs as parts. -/
def IsOptions (v : Value) : Prop :=
  v.isFalsy = true ∨ v.map?.isSome ∨ ∃ parts, v.parts? = some parts ∧ ∀ p ∈ parts, p.IsPair

/-- The value can be taken for alternatives: its parts are texts. -/
def ListsTexts (v : Value) : Prop :=
  ∃ parts, v.parts? = some parts ∧ ∀ p ∈ parts, p.text?.isSome

end Value

theorem pairOf_eq (v : Value) : pairOf v = match v.parts? with
    | none => .error (wrongKind v)
    | some [.text k, w] => .ok (k, w)
    | some [.list _, _] => .error (wrongKind v)
    | some [.map _, _] => .error (wrongKind v)
    | some [k, w] => .ok (k.shown, w)
    | some _ =>
      .error (.fault .badValue "dictionary update sequence element has a wrong length") := by
  cases v <;> rfl

theorem exists_pairOf_error_iff (v : Value) : (∃ e, pairOf v = .error e) ↔ ¬ v.IsPair := by
  rw [pairOf_eq, Value.IsPair]
  cases v.parts? with
  | none => simp
  | some parts =>
      match parts with
      | [] | [_] | _ :: _ :: _ :: _ => simp
      | [k, w] => cases k <;> simp [isHashable]

theorem not_explained_wrongKind (v : Value) : ¬ (wrongKind v).Explained :=
  not_explained_fault (by decide) _

theorem not_explained_noAttributes (v : Value) : ¬ (noAttributes v).Explained :=
  not_explained_fault (by decide) _

theorem onlyFaults_pairOf (v : Value) : OnlyFaults (pairOf v) := by
  rw [pairOf_eq]
  split
  · exact .error (not_explained_wrongKind v)
  · exact .ok _
  · exact .error (not_explained_wrongKind v)
  · exact .error (not_explained_wrongKind v)
  · exact .ok _
  · exact .error (not_explained_fault (by decide) _)

theorem exists_optionEntries_error_iff (v : Value) :
    (∃ e, optionEntries v = .error e) ↔ ¬ v.IsOptions := by
  unfold optionEntries Value.IsOptions
  by_cases hfalsy : v.isFalsy = true
  · simp [hfalsy]
  · rw [if_neg hfalsy]
    cases v with
    | map entries => simp [Value.map?]
    | list | tuple | text =>
        simp [exists_map_eq_error, exists_mapM_eq_error, exists_pairOf_error_iff, hfalsy,
          Value.map?, Value.parts?]
    | _ => simp [hfalsy, Value.map?, Value.parts?]

theorem onlyFaults_optionEntries (v : Value) : OnlyFaults (optionEntries v) := by
  unfold optionEntries
  split
  · exact .ok _
  · split
    · exact .ok _
    · exact (FailsOnly.mapM fun p _ => onlyFaults_pairOf p).map _
    · exact (FailsOnly.mapM fun p _ => onlyFaults_pairOf p).map _
    · exact (FailsOnly.mapM fun c _ => onlyFaults_pairOf _).map _
    · exact .error (not_explained_wrongKind _)

/-- The text that an alternative is. -/
def textOf (v : Value) : Except Failure String :=
  match v with
  | .text s => .ok s
  | v => .error (wrongKind v)

theorem enumTexts_eq (v : Value) : enumTexts v = match v with
    | .list items => items.mapM textOf
    | .tuple items => items.mapM textOf
    | .map entries => .ok (entries.map Prod.fst)
    | .text s => .ok (s.toList.map fun c => String.ofList [c])
    | v => .error (wrongKind v) := by
  cases v <;> rfl

theorem exists_textOf_error_iff (v : Value) :
    (∃ e, textOf v = .error e) ↔ ¬ v.text?.isSome := by
  cases v <;> simp [textOf, Value.text?]

theorem exists_enumTexts_error_iff (v : Value) :
    (∃ e, enumTexts v = .error e) ↔ ¬ v.ListsTexts := by
  rw [enumTexts_eq, Value.ListsTexts]
  cases v with
  | list | tuple => simp [exists_mapM_eq_error, exists_textOf_error_iff, Value.parts?]
  | map | text => simp [Value.parts?, Value.text?]
  | _ => simp [Value.parts?]

theorem onlyFaults_enumTexts (v : Value) : OnlyFaults (enumTexts v) := by
  have htext : ∀ w : Value, OnlyFaults (textOf w) := by
    intro w
    unfold textOf
    split
    · exact .ok _
    · exact .error (not_explained_wrongKind _)
  rw [enumTexts_eq]
  split
  · exact .mapM fun w _ => htext w
  · exact .mapM fun w _ => htext w
  · exact .ok _
  · exact .ok _
  · exact .error (not_explained_wrongKind _)

/-! ## Sources -/

section Sources

variable {source type value : Value} {entry : Entries String Value}

theorem exists_plainRaw_error_iff : (∃ e, plainRaw source type value entry = .error e) ↔
    isHashable source = false ∨ source = .text "input" ∧
      (Value.lookup entry "enum").isTruthy = true ∧ ¬ (Value.lookup entry "enum").ListsTexts := by
  unfold plainRaw
  dsimp only
  split
  · simp [isHashable]
  · simp [isHashable]
  · rename_i name _ _
    by_cases henum : name = "input" ∧ (Value.lookup entry "enum").isTruthy = true
    · rw [if_pos henum]
      change (∃ e, Except.bind _ _ = _) ↔ _
      rw [exists_bind_eq_error, exists_enumTexts_error_iff]
      simp [isHashable, henum, pure, Except.pure]
    · rw [if_neg henum]
      have hok : ¬ ∃ e, (if (Source.ofName? name).isSome = true then
          Except.ok [("$" ++ name, value), ("type", type)]
        else Except.ok [("$input", Value.text value.shown)] :
          Except Failure (Entries String Value)) = .error e := by
        split <;> simp
      simp only [hok, false_iff, isHashable]
      rintro (h | ⟨h, htruthy, -⟩)
      · cases h
      · cases h
        exact henum ⟨rfl, htruthy⟩
  · rename_i hnot
    have hsource : source ≠ .text "input" := by
      rintro rfl
      exact hnot "input" rfl
    split <;> simp_all

theorem onlyFaults_plainRaw : OnlyFaults (plainRaw source type value entry) := by
  unfold plainRaw
  dsimp only
  split
  · exact .ok _
  · exact .ok _
  · split
    · exact .bind (onlyFaults_enumTexts _) fun _ => .ok _
    · split <;> exact .ok _
  · split
    · exact .ok _
    · exact .error (not_explained_wrongKind _)

end Sources

/-! ## Entries -/

/-- What an entry is rebuilt as: a link, a list of its element, an object with nested fields, or a
value of another source. -/
inductive EntryForm where
  | link | list | object | plain

/-- The form of an entry, in the order in which forms are tried. -/
def entryForm (entry : Entries String Value) : EntryForm :=
  if isLinkEntry entry then .link
  else if isElementEntry entry then .list
  else if isObjectEntry entry then .object
  else .plain

/-- The raw value of an entry, before its options are put to it. -/
theorem rawOf_map (entry : Entries String Value) : rawOf (.map entry) =
    (optionEntries (Value.lookup entry "options")).bind fun options =>
      match entryForm entry with
      | .link => .ok (.map (merge (linkRaw (Value.lookup entry "value") entry) options))
      | .list => (rawOf (Value.lookup entry "item")).map fun raw => .list [raw]
      | .object => (rawFields (Value.lookup entry "fields")).map Value.map
      | .plain => (plainRaw (entryOr entry "source" (.text "input"))
          (entryOr entry "type" (.text "string")) (Value.lookup entry "value") entry).map
            fun base => .map (merge base options) := by
  rw [rawOf]
  refine congrArg (Except.bind _) (funext fun options => ?_)
  unfold entryForm
  by_cases hlink : isLinkEntry entry = true
  · rw [if_pos hlink, if_pos hlink, markedRaw, if_pos hlink]
    rfl
  · rw [if_neg hlink, if_neg hlink]
    by_cases helement : isElementEntry entry = true
    · rw [if_pos helement, if_pos helement, Field.rawOfKey_eq]
      have hitem : (get? "item" entry).isSome = true := (Bool.and_eq_true _ _ ▸ helement).2
      -- the element is there, so that looking it up finds what the search by key finds
      obtain ⟨v, hv⟩ := Option.isSome_iff_exists.mp hitem
      have hlookup : Value.lookup entry "item" = v := by rw [Value.lookup, hv, Option.getD_some]
      simp only [hv, hlookup]
      cases rawOf v <;> rfl
    · rw [if_neg helement, if_neg helement]
      by_cases hobject : isObjectEntry entry = true
      · rw [if_pos hobject, if_pos hobject, Field.rawFieldsOfKey_eq]
        have hfields : (get? "fields" entry).isSome = true := (Bool.and_eq_true _ _ ▸ hobject).2
        obtain ⟨v, hv⟩ := Option.isSome_iff_exists.mp hfields
        have hlookup : Value.lookup entry "fields" = v := by
          rw [Value.lookup, hv, Option.getD_some]
        simp only [hv, hlookup]
        cases rawFields v <;> rfl
      · rw [if_neg hobject, if_neg hobject, markedRaw, if_neg hlink]
        cases plainRaw (entryOr entry "source" (.text "input"))
          (entryOr entry "type" (.text "string")) (Value.lookup entry "value") entry <;> rfl

/-- No raw value is found for the entry of a field. -/
inductive Value.Broken : Value → Prop
  | shapeless {v : Value} (h : v.map? = none) : Broken v
  | options {entry : Entries String Value} (h : ¬ (Value.lookup entry "options").IsOptions) :
      Broken (.map entry)
  | element {entry : Entries String Value} {v : Value} (hform : entryForm entry = .list)
      (hv : Value.lookup entry "item" = v) (h : Broken v) : Broken (.map entry)
  /-- The nested fields are no mapping. -/
  | fields {entry : Entries String Value} (hform : entryForm entry = .object)
      (h : (Value.lookup entry "fields").map? = none) : Broken (.map entry)
  | member {entry fields : Entries String Value} (hform : entryForm entry = .object)
      (hv : Value.lookup entry "fields" = .map fields) {e : String × Value} (he : e ∈ fields)
      (h : Broken e.2) : Broken (.map entry)
  /-- The source is a list or a mapping. -/
  | source {entry : Entries String Value} (hform : entryForm entry = .plain)
      (h : isHashable (entryOr entry "source" (.text "input")) = false) : Broken (.map entry)
  /-- The alternatives of an input are no texts. -/
  | alternatives {entry : Entries String Value} (hform : entryForm entry = .plain)
      (hsource : entryOr entry "source" (.text "input") = .text "input")
      (htruthy : (Value.lookup entry "enum").isTruthy = true)
      (h : ¬ (Value.lookup entry "enum").ListsTexts) : Broken (.map entry)

/-- The value is no mapping of entries, or one of them is broken. -/
def Value.BrokenFields (v : Value) : Prop :=
  v.map? = none ∨ ∃ fields, v = .map fields ∧ ∃ e ∈ fields, e.2.Broken

/-- What breaks a mapping, by its form. -/
theorem broken_map_iff (entry : Entries String Value) : (Value.map entry).Broken ↔
    ¬ (Value.lookup entry "options").IsOptions ∨
      match entryForm entry with
      | .link => False
      | .list => (Value.lookup entry "item").Broken
      | .object => (Value.lookup entry "fields").BrokenFields
      | .plain => isHashable (entryOr entry "source" (.text "input")) = false ∨
          entryOr entry "source" (.text "input") = .text "input" ∧
            (Value.lookup entry "enum").isTruthy = true ∧
              ¬ (Value.lookup entry "enum").ListsTexts := by
  constructor
  · intro h
    cases h with
    | shapeless h => cases h
    | options h => exact Or.inl h
    | element hform hv h =>
        rw [hform, hv]
        exact Or.inr h
    | fields hform h =>
        rw [hform]
        exact Or.inr (Or.inl h)
    | member hform hv he h =>
        rw [hform]
        exact Or.inr (Or.inr ⟨_, hv, _, he, h⟩)
    | source hform h =>
        rw [hform]
        exact Or.inr (Or.inl h)
    | alternatives hform hsource htruthy h =>
        rw [hform]
        exact Or.inr (Or.inr ⟨hsource, htruthy, h⟩)
  · rintro (h | h)
    · exact .options h
    · cases hform : entryForm entry with
      | link =>
          rw [hform] at h
          cases h
      | list =>
          rw [hform] at h
          exact .element hform rfl h
      | object =>
          rw [hform] at h
          rcases h with h | ⟨fields, hfields, e, he, h⟩
          · exact .fields hform h
          · exact .member hform hfields he h
      | plain =>
          rw [hform] at h
          rcases h with h | ⟨hsource, htruthy, h⟩
          · exact .source hform h
          · exact .alternatives hform hsource htruthy h

/-- What fails for an entry and for a mapping of entries. -/
structure Fails (v : Value) : Prop where
  raw : (∃ e, rawOf v = .error e) ↔ v.Broken
  fields : (∃ e, rawFields v = .error e) ↔ v.BrokenFields

theorem fails_of_shapeless {v : Value} (h : v.map? = none) : Fails v := by
  have hraw : rawOf v = .error (noAttributes v) ∧ rawFields v = .error (noAttributes v) := by
    cases v with
    | map => cases h
    | _ => exact ⟨by rw [rawOf]; simp, by rw [rawFields]; simp⟩
  exact ⟨iff_of_true ⟨_, hraw.1⟩ (.shapeless h), iff_of_true ⟨_, hraw.2⟩ (Or.inl h)⟩

theorem exists_rawOfAll_error_iff {es : Entries String Value} (h : ∀ e ∈ es, Fails e.2) :
    (∃ err, rawOfAll es = .error err) ↔ ∃ e ∈ es, e.2.Broken := by
  induction es with
  | nil => simp [rawOfAll]
  | cons e es ih =>
      rw [List.forall_mem_cons] at h
      rw [rawOfAll, List.exists_mem_cons_iff, ← h.1.raw, ← ih h.2]
      change (∃ err, Except.bind _ _ = _) ↔ _
      cases rawOf e.2 with
      | error err => simp [Except.bind]
      | ok raw => cases rawOfAll es <;> simp [Except.bind, bind, pure, Except.pure]

/-- What an entry holds is looked up among its members, or it is not there. -/
theorem lookup_of_members {P : Value → Prop} (hnull : P .null) {entry : Entries String Value}
    (h : ∀ e ∈ entry, P e.2) (key : String) : P (Value.lookup entry key) := by
  rw [Value.lookup]
  cases hv : get? key entry with
  | none => exact hnull
  | some v => exact h _ (mem_of_get?_eq_some hv)

theorem fails_map {entry : Entries String Value} (ih : ∀ e ∈ entry, Fails e.2) :
    Fails (.map entry) := by
  have hlookup := lookup_of_members (fails_of_shapeless rfl) ih
  constructor
  · rw [rawOf_map, broken_map_iff, ← exists_optionEntries_error_iff]
    -- the options are taken apart first, and fail whatever the form is
    cases optionEntries (Value.lookup entry "options") with
    | error err => simp [Except.bind]
    | ok options =>
        simp only [Except.bind, reduceCtorEq, exists_false, false_or]
        cases entryForm entry with
        | link => simp
        | list => exact exists_map_eq_error.trans (hlookup "item").raw
        | object => exact exists_map_eq_error.trans (hlookup "fields").fields
        | plain => exact exists_map_eq_error.trans exists_plainRaw_error_iff
  · rw [rawFields, exists_rawOfAll_error_iff ih, Value.BrokenFields]
    simp [Value.map?]

theorem fails (v : Value) : Fails v := by
  induction v using Value.induct_members with
  | leaf v hmap => exact fails_of_shapeless hmap
  | list items | tuple items => exact fails_of_shapeless rfl
  | map entries ih => exact fails_map ih

/-- **Entries that cannot be taken apart.**  No raw value is found for an entry exactly if it is
broken. -/
theorem exists_rawOf_error_iff (v : Value) : (∃ e, rawOf v = .error e) ↔ v.Broken := (fails v).raw

theorem exists_rawFields_error_iff (v : Value) :
    (∃ e, rawFields v = .error e) ↔ v.BrokenFields := (fails v).fields

/-! ## Faults -/

/-- What fails for an entry and for a mapping of entries fails without an explanation. -/
structure Faulty (v : Value) : Prop where
  raw : OnlyFaults (rawOf v)
  fields : OnlyFaults (rawFields v)

theorem faulty_of_shapeless {v : Value} (h : v.map? = none) : Faulty v := by
  have hfault := not_explained_noAttributes v
  cases v with
  | map => cases h
  | _ =>
      constructor
      · rw [rawOf]
        · exact .error hfault
        · simp
      · rw [rawFields]
        · exact .error hfault
        · simp

theorem onlyFaults_rawOfAll {es : Entries String Value} (h : ∀ e ∈ es, Faulty e.2) :
    OnlyFaults (rawOfAll es) := by
  induction es with
  | nil => exact .ok _
  | cons e es ih =>
      rw [List.forall_mem_cons] at h
      rw [rawOfAll]
      exact .bind h.1.raw fun raw => .bind (ih h.2) fun rest => .ok _

theorem faulty_map {entry : Entries String Value} (ih : ∀ e ∈ entry, Faulty e.2) :
    Faulty (.map entry) := by
  have hlookup := lookup_of_members (faulty_of_shapeless rfl) ih
  constructor
  · rw [rawOf_map]
    refine (onlyFaults_optionEntries _).bind fun options => ?_
    cases entryForm entry with
    | link => exact .ok _
    | list => exact (hlookup "item").raw.map _
    | object => exact (hlookup "fields").fields.map _
    | plain => exact onlyFaults_plainRaw.map _
  · rw [rawFields]
    exact onlyFaults_rawOfAll ih

theorem faulty (v : Value) : Faulty v := by
  induction v using Value.induct_members with
  | leaf v hmap => exact faulty_of_shapeless hmap
  | list items | tuple items => exact faulty_of_shapeless rfl
  | map entries ih => exact faulty_map ih

end Entity
