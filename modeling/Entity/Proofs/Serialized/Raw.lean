import Entity.Proofs.Field.Formed
import Entity.Proofs.Serialized.Entry

/-!
# What a field is rebuilt from

A serialized field becomes a mapping with an explicit marker, a list of its element, or a mapping of
its nested fields.  Main statements: which of the three it becomes, and what stands in it.
-/

namespace Entity

open Entries

/-! ## Forms -/

/-- The forms of the value that a field is rebuilt from. -/
inductive Field.Form where
  /-- A mapping with an explicit marker. -/
  | marked
  /-- A list of one element. -/
  | list (item : Field)
  /-- A mapping of nested fields. -/
  | object (fields : List (String × Field))

namespace Field

/-- The form of the value that a field is rebuilt from. -/
def form (f : Field) : Form :=
  if f.source = .link then .marked
  else match f.type, f.item with
    | .array, some item => .list item
    | _, _ => match f.source, f.nested with
      | .input, some fields => .object fields
      | _, _ => .marked

/-- A link is marked; an array with an element is a list; an input with nested fields is an object;
everything else is marked. -/
theorem form_cases (f : Field) :
    (f.form = .marked ∧ f.source = .link) ∨
    (∃ i, f.form = .list i ∧ f.source ≠ .link ∧ f.type = .array ∧ f.item = some i) ∨
    (∃ fs, f.form = .object fs ∧ f.source = .input ∧ ¬ (f.type = .array ∧ f.item.isSome) ∧
      f.nested = some fs) ∨
    (f.form = .marked ∧ f.source ≠ .link ∧ ¬ (f.type = .array ∧ f.item.isSome) ∧
      ¬ (f.source = .input ∧ f.nested.isSome)) := by
  unfold form
  split
  · rename_i hs
    exact Or.inl ⟨rfl, hs⟩
  · rename_i hs
    right
    split
    · rename_i i ht hi
      exact Or.inl ⟨i, rfl, hs, ht, hi⟩
    · rename_i hno
      right
      have helement : ¬ (f.type = .array ∧ f.item.isSome) := by
        rintro ⟨ht, hi⟩
        obtain ⟨i, hi⟩ := Option.isSome_iff_exists.mp hi
        exact hno i ht hi
      split
      · rename_i fs hinput hn
        exact Or.inl ⟨fs, rfl, hinput, helement, hn⟩
      · rename_i hno'
        refine Or.inr ⟨rfl, hs, helement, ?_⟩
        rintro ⟨hinput, hn⟩
        obtain ⟨fs, hn⟩ := Option.isSome_iff_exists.mp hn
        exact hno' fs hinput hn

theorem form_eq_list {f i : Field} :
    f.form = .list i ↔ f.source ≠ .link ∧ f.type = .array ∧ f.item = some i := by
  rcases f.form_cases with h | ⟨j, h⟩ | ⟨fs, h⟩ | h
  · simp [h]
  · simp [h]
  · have hno := h.2.2.1
    simp_all
  · have hno := h.2.2.1
    simp_all

theorem form_eq_object {f : Field} {fs : List (String × Field)} :
    f.form = .object fs ↔
      f.source = .input ∧ ¬ (f.type = .array ∧ f.item.isSome) ∧ f.nested = some fs := by
  rcases f.form_cases with h | ⟨i, h⟩ | ⟨fs', h⟩ | h
  · simp [h]
  · simp [h]
  · have hno := h.2.2.1
    simp_all
  · have hno := h.2.2.2
    simp_all

theorem form_eq_marked {f : Field} :
    f.form = .marked ↔ f.source = .link ∨
      (¬ (f.type = .array ∧ f.item.isSome) ∧ ¬ (f.source = .input ∧ f.nested.isSome)) := by
  rcases f.form_cases with h | ⟨i, h⟩ | ⟨fs, h⟩ | h
  · simp [h]
  · simp [h]
  · simp [h]
  · have hno := h.2.2
    simp_all

end Field

/-! ## Which form an entry asks for -/

theorem Source.name_inj {s t : Source} : s.name = t.name ↔ s = t := by
  cases s <;> cases t <;> decide

theorem Primitive.name_inj {p q : Primitive} : p.name = q.name ↔ p = q := by
  cases p <;> cases q <;> decide

namespace Field

theorem isLinkEntry_entries (f : Field) :
    isLinkEntry f.entries = true ↔ f.source = .link := by
  have hname := Source.name_inj (s := f.source) (t := .link)
  simpa [isLinkEntry, entryOr, get?_source, Value.text?, Source.name] using hname

theorem isElementEntry_entries (f : Field) :
    isElementEntry f.entries = true ↔ f.type = .array ∧ f.item.isSome := by
  have hname := Primitive.name_inj (p := f.type) (q := .array)
  simp only [isElementEntry, entryOr, get?_type, Entries.has, get?_item, Option.getD_some,
    Value.text?, Option.isSome_map, Bool.and_eq_true, beq_iff_eq, Option.some_inj]
  exact and_congr hname Iff.rfl

theorem isObjectEntry_entries (f : Field) :
    isObjectEntry f.entries = true ↔ f.source = .input ∧ f.nested.isSome := by
  have hname := Source.name_inj (s := f.source) (t := .input)
  simp only [isObjectEntry, entryOr, get?_source, Entries.has, get?_fields, Option.getD_some,
    Value.text?, Option.isSome_map, Bool.and_eq_true, beq_iff_eq, Option.some_inj]
  exact and_congr hname Iff.rfl

/-- The options come back as they are. -/
theorem optionEntries_entries (f : Field) :
    optionEntries (Value.lookup f.entries "options") = .ok f.options := by
  rw [Value.lookup, get?_options]
  by_cases ho : f.options = []
  · simp [ho, optionEntries, Value.isFalsy]
  · simp [ho, optionEntries, Value.isFalsy]

end Field

/-! ## What stands in a marked mapping -/

theorem isTruthy_ofText? (s : Option String) :
    (Value.ofText? s).isTruthy = (Text.nonEmpty? s).isSome := by
  cases s with
  | none => rfl
  | some s =>
      by_cases hs : s = "" <;>
        simp [Value.ofText?, Value.isTruthy, Value.isFalsy, Text.nonEmpty?, hs]

theorem eq_of_nonEmpty? {s : Option String} {t : String} (h : Text.nonEmpty? s = some t) :
    s = some t := by
  cases s with
  | none => cases h
  | some s =>
      by_cases hs : s = ""
      · simp [Text.nonEmpty?, hs] at h
      · simpa [Text.nonEmpty?, hs] using h

theorem nonEmpty?_nonEmpty? (o : Option String) :
    Text.nonEmpty? (Text.nonEmpty? o) = Text.nonEmpty? o := by
  cases h : Text.nonEmpty? o with
  | none => rfl
  | some s =>
      obtain rfl := eq_of_nonEmpty? h
      exact h

namespace Field

/-- The code text of a field: of the selection of its cascade, or else of its computation. -/
def code? (f : Field) : Option String :=
  ((f.cascade.bind Cascade.selector).or f.compute).bind Computation.text?

/-- The field is a link that is declared inside a list. -/
def isListed (f : Field) : Bool := (f.cascade.map Cascade.isArray).getD false

/-- The text that a plain input is read from. -/
def inputText (f : Field) : String :=
  if f.alternatives = [] then f.literal else enumText f.alternatives

/-- The value under the marker. -/
def body (f : Field) : Value :=
  match f.source with
  | .link => if f.isListed then .list [.text f.literal] else .text f.literal
  | .compute => .text ((Text.nonEmpty? f.code?).getD f.literal)
  | .input => .text f.inputText
  | _ => .text f.literal

/-- The entries that the source puts beside the marker. -/
def beside (f : Field) : Entries String Value :=
  match f.source with
  | .link => textEntry "where" f.code?
  | .generate =>
    [("type", .text f.type.name)] ++
    ((f.generation.bind Generation.schema).map fun s => [("schema", Value.map s)]).getD [] ++
    textEntry "model" (f.generation.bind Generation.model)
  | _ => [("type", .text f.type.name)]

/-- The marked mapping that a field becomes. -/
def markedEntries (f : Field) : Entries String Value :=
  ("$" ++ f.source.name, f.body) :: (f.beside ++ f.options)

theorem lookup_code (f : Field) : Value.lookup f.entries "code" = Value.ofText? f.code? := by
  rw [Value.lookup, get?_code, code?]
  cases (f.cascade.bind Cascade.selector).or f.compute <;> rfl

theorem lookup_array (f : Field) : (Value.lookup f.entries "array").isTruthy = f.isListed := by
  rw [Value.lookup, get?_array, isListed]
  cases f.cascade with
  | none => rfl
  | some c => cases hc : c.isArray <;> simp [Value.isTruthy, Value.isFalsy, hc]

theorem linkRaw_entries {f : Field} (hs : f.source = .link) :
    linkRaw (.text f.literal) f.entries = ("$" ++ f.source.name, f.body) :: f.beside := by
  unfold linkRaw body beside
  simp only [lookup_array, lookup_code, isTruthy_ofText?, hs]
  unfold textEntry
  cases hcode : Text.nonEmpty? f.code? with
  | none => simp [Source.name]
  | some code => simp [Source.name, eq_of_nonEmpty? hcode, Value.ofText?]

theorem lookup_schema (f : Field) : Value.lookup f.entries "schema" =
    ((f.generation.bind Generation.schema).map Value.map).getD .null := by
  rw [Value.lookup, get?_schema]
  cases f.generation <;> rfl

theorem lookup_model (f : Field) : Value.lookup f.entries "model" =
    Value.ofText? (Text.nonEmpty? (f.generation.bind Generation.model)) := by
  rw [Value.lookup, get?_model]
  cases f.generation with
  | none => rfl
  | some g =>
      change ((Text.nonEmpty? g.model).map Value.text).getD .null =
        Value.ofText? (Text.nonEmpty? g.model)
      cases Text.nonEmpty? g.model <;> rfl

theorem enumTexts_texts (vs : List String) : enumTexts (Value.texts vs) = .ok vs := by
  simp only [Value.texts, enumTexts]
  induction vs with
  | nil => rfl
  | cons v vs ih => simp only [List.map_cons, List.mapM_cons, ih]; rfl

theorem lookup_enum (f : Field) : Value.lookup f.entries "enum" =
    if f.alternatives = [] then .null else Value.texts f.alternatives := by
  rw [Value.lookup, get?_enum]
  split <;> rfl

theorem plainRaw_generate {f : Field} (hs : f.source = .generate) :
    plainRaw (.text f.source.name) (.text f.type.name) (.text f.literal) f.entries =
      .ok (("$" ++ f.source.name, f.body) :: f.beside) := by
  have hmodel : (if (Value.lookup f.entries "model").isFalsy then []
      else [("model", Value.lookup f.entries "model")]) =
      textEntry "model" (f.generation.bind Generation.model) := by
    rw [lookup_model, textEntry]
    cases hm : Text.nonEmpty? (f.generation.bind Generation.model) with
    | none => rfl
    | some model =>
        have hne : model ≠ "" := by
          rintro rfl
          cases hg : f.generation.bind Generation.model <;> simp_all [Text.nonEmpty?]
        simp [Value.ofText?, Value.isFalsy, hne]
  have hschema : (if (Value.lookup f.entries "schema").isNull then []
      else [("schema", Value.lookup f.entries "schema")]) =
      ((f.generation.bind Generation.schema).map fun s => [("schema", Value.map s)]).getD [] := by
    rw [lookup_schema]
    cases f.generation.bind Generation.schema <;> rfl
  simp only [plainRaw, body, beside, hs, hmodel, hschema, Source.name]
  simp

theorem plainRaw_compute {f : Field} (hs : f.source = .compute) :
    plainRaw (.text f.source.name) (.text f.type.name) (.text f.literal) f.entries =
      .ok (("$" ++ f.source.name, f.body) :: f.beside) := by
  have hcode : Value.firstTruthy (Value.lookup f.entries "code") [.text f.literal] =
      .text ((Text.nonEmpty? f.code?).getD f.literal) := by
    rw [lookup_code, Value.firstTruthy, isTruthy_ofText?]
    cases hc : Text.nonEmpty? f.code? with
    | none => simp [Value.firstTruthy]
    | some code => simp [eq_of_nonEmpty? hc, Value.ofText?]
  simp only [plainRaw, body, beside, hs, hcode, Source.name]
  simp

theorem plainRaw_input {f : Field} (hs : f.source = .input) :
    plainRaw (.text f.source.name) (.text f.type.name) (.text f.literal) f.entries =
      .ok (("$" ++ f.source.name, f.body) :: f.beside) := by
  by_cases ha : f.alternatives = []
  · simp [plainRaw, lookup_enum, ha, hs, body, beside, inputText, Value.isTruthy, Value.isFalsy,
      Source.ofName?, Source.all, Source.name]
  · have htruthy : (Value.texts f.alternatives).isTruthy = true := by
      simpa [Value.isTruthy, Value.isFalsy, Value.texts] using ha
    simp [plainRaw, lookup_enum, ha, hs, body, beside, inputText, htruthy, enumTexts_texts,
      Source.name]

theorem plainRaw_entries {f : Field} (hs : f.source ≠ .link) :
    plainRaw (.text f.source.name) (.text f.type.name) (.text f.literal) f.entries =
      .ok (("$" ++ f.source.name, f.body) :: f.beside) := by
  cases hsource : f.source with
  | link => exact absurd hsource hs
  | generate => simpa only [hsource] using plainRaw_generate hsource
  | compute => simpa only [hsource] using plainRaw_compute hsource
  | input => simpa only [hsource] using plainRaw_input hsource
  | sync | aggregate | fuzzy =>
      simp [plainRaw, body, beside, hsource, Source.name, Source.ofName?, Source.all]

/-! ## The three forms -/

/-- What the source puts beside a marker stands under keys with a meaning of their own. -/
theorem keys_beside_sublist (f : Field) : (keys f.beside).Sublist interpretedKeys := by
  cases hs : f.source with
  | link =>
      simp only [beside, hs]
      exact (keys_textEntry_sublist "where" f.code?).trans (by decide)
  | generate =>
      have hschema : (keys (((f.generation.bind Generation.schema).map
          fun s => [("schema", Value.map s)]).getD [])).Sublist ["schema"] := by
        cases f.generation.bind Generation.schema <;> simp [keys]
      have h := ((List.Sublist.refl ["type"]).append hschema).append
        (keys_textEntry_sublist "model" (f.generation.bind Generation.model))
      simp only [beside, hs]
      simp only [keys, List.map_append] at h ⊢
      exact h.trans (by decide)
  | _ =>
      simp only [beside, hs]
      change List.Sublist ["type"] interpretedKeys
      decide

theorem ofMarker?_name (s : Source) : Source.ofMarker? ("$" ++ s.name) = some s := by
  cases s <;> rfl

theorem nodup_keys_markedEntries {f : Field} (h : FreeOptions f.options) :
    (keys f.markedEntries).Nodup := by
  have hmarker : ∀ k ∈ keys f.beside, Source.ofMarker? k = none := by
    intro k hk
    have hall : ∀ k ∈ interpretedKeys, Source.ofMarker? k = none := by decide
    exact hall k (f.keys_beside_sublist.subset hk)
  have hname := ofMarker?_name f.source
  simp only [markedEntries, keys, List.map_cons, List.map_append, List.nodup_cons]
  refine ⟨?_, List.nodup_append.mpr ⟨f.keys_beside_sublist.nodup (by decide), h.nodup, ?_⟩⟩
  · intro hmem
    rcases List.mem_append.mp hmem with hmem | hmem
    · rw [hmarker _ hmem] at hname
      cases hname
    · rw [h.notMarker _ hmem] at hname
      cases hname
  -- options have no key with a meaning of its own, and only such keys stand beside a marker
  · rintro k hk k' hk' rfl
    exact h.notInterpreted k hk' (f.keys_beside_sublist.subset hk)

theorem markedRaw_entries {f : Field} (h : FreeOptions f.options) :
    markedRaw f.entries f.options = .ok (.map f.markedEntries) := by
  have hmerge : merge (("$" ++ f.source.name, f.body) :: f.beside) f.options = f.markedEntries :=
    merge_eq_append (nodup_keys_markedEntries h)
  have hvalue : Value.lookup f.entries "value" = .text f.literal := by
    rw [Value.lookup, get?_value, Option.getD_some]
  have hsource : entryOr f.entries "source" (.text "input") = .text f.source.name := by
    rw [entryOr, get?_source, Option.getD_some]
  have htype : entryOr f.entries "type" (.text "string") = .text f.type.name := by
    rw [entryOr, get?_type, Option.getD_some]
  unfold markedRaw
  rw [hvalue, hsource, htype]
  by_cases hs : f.source = .link
  · rw [if_pos (f.isLinkEntry_entries.mpr hs), linkRaw_entries hs, ← hmerge]
    rfl
  · rw [if_neg (mt f.isLinkEntry_entries.mp hs), plainRaw_entries hs, ← hmerge]
    rfl

/-- Looking for a key among the entries of a field. -/
theorem rawOfKey_eq (key : String) (es : Entries String Value) :
    rawOfKey key es = match get? key es with
      | some v => rawOf v
      | none => .error (noAttributes .null) := by
  induction es with
  | nil => simp [rawOfKey]
  | cons e es ih =>
      rw [rawOfKey, get?_cons]
      split
      · rfl
      · exact ih

theorem rawFieldsOfKey_eq (key : String) (es : Entries String Value) :
    rawFieldsOfKey key es = match get? key es with
      | some v => rawFields v
      | none => .error (noAttributes .null) := by
  induction es with
  | nil => simp [rawFieldsOfKey]
  | cons e es ih =>
      rw [rawFieldsOfKey, get?_cons]
      split
      · rfl
      · exact ih

theorem rawOf_serialize_marked {f : Field} (h : FreeOptions f.options)
    (hf : f.form = .marked) : rawOf f.serialize = .ok (.map f.markedEntries) := by
  rw [serialize_eq, rawOf, optionEntries_entries]
  change (if isLinkEntry f.entries then _ else _) = _
  rcases form_eq_marked.mp hf with hs | ⟨helement, hobject⟩
  · rw [if_pos (f.isLinkEntry_entries.mpr hs)]
    exact markedRaw_entries h
  · split
    · exact markedRaw_entries h
    · rw [if_neg (mt f.isElementEntry_entries.mp helement),
        if_neg (mt f.isObjectEntry_entries.mp hobject)]
      exact markedRaw_entries h

theorem rawOf_serialize_list {f i : Field} (hf : f.form = .list i) :
    rawOf f.serialize = (rawOf i.serialize).map fun v => .list [v] := by
  obtain ⟨hs, ht, hi⟩ := form_eq_list.mp hf
  rw [serialize_eq, rawOf, optionEntries_entries]
  change (if isLinkEntry f.entries then _ else _) = _
  rw [if_neg (mt f.isLinkEntry_entries.mp hs),
    if_pos (f.isElementEntry_entries.mpr ⟨ht, by simp [hi]⟩), rawOfKey_eq, get?_item, hi]
  cases hr : rawOf i.serialize <;> simp [hr] <;> rfl

theorem rawOf_serialize_object {f : Field} {fs : List (String × Field)}
    (hf : f.form = .object fs) :
    rawOf f.serialize = (rawOfAll (serializeAll fs)).map Value.map := by
  obtain ⟨hs, helement, hn⟩ := form_eq_object.mp hf
  have hlink : f.source ≠ .link := by simp [hs]
  rw [serialize_eq, rawOf, optionEntries_entries]
  change (if isLinkEntry f.entries then _ else _) = _
  rw [if_neg (mt f.isLinkEntry_entries.mp hlink),
    if_neg (mt f.isElementEntry_entries.mp helement),
    if_pos (f.isObjectEntry_entries.mpr ⟨hs, by simp [hn]⟩), rawFieldsOfKey_eq, get?_fields, hn]
  cases hr : rawOfAll (serializeAll fs) <;> simp [hr, rawFields] <;> rfl

end Field

end Entity
