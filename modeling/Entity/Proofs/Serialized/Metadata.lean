import Entity.Proofs.Outcome
import Entity.Proofs.Serialized.Entry

/-!
# The metadata of serialized definitions

Main statements: the metadata that is carried over stands under distinct reserved keys with the
values that were serialized, and reading them again does not fail.
-/

namespace Entity

open Entries

/-! ## Carrying over -/

/-- The value of a metadata key, if it is there. -/
def metadataEntry (data : Entries String Value) (key : String) : Option (String × Value) :=
  match get? key data with
  | none => none
  | some .null => none
  | some v => some (key, v)

theorem metadataOf_eq (data : Entries String Value) :
    metadataOf data = metadataKeys.filterMap (metadataEntry data) := rfl

theorem metadataEntry_key {data : Entries String Value} {key : String} {e : String × Value}
    (h : metadataEntry data key = some e) : e.1 = key := by
  unfold metadataEntry at h
  split at h
  · cases h
  · cases h
  · cases h
    rfl

/-- Carried entries stand under the keys they are looked for under, in order. -/
theorem keys_filterMap_sublist (data : Entries String Value) (ks : List String) :
    (keys (ks.filterMap (metadataEntry data))).Sublist ks := by
  induction ks with
  | nil => exact .slnil
  | cons k ks ih =>
      rw [List.filterMap_cons]
      split
      · exact ih.cons k
      · rename_i e he
        rw [keys, List.map_cons, metadataEntry_key he]
        exact ih.cons_cons k

theorem keys_metadataOf_sublist (data : Entries String Value) :
    (keys (metadataOf data)).Sublist metadataKeys :=
  keys_filterMap_sublist data metadataKeys

theorem isReserved_of_mem_metadataOf (data : Entries String Value) :
    ∀ e ∈ metadataOf data, isReserved e.1 = true := by
  intro e he
  have hkey : e.1 ∈ metadataKeys :=
    (keys_metadataOf_sublist data).subset (List.mem_map_of_mem he)
  have hall : ∀ key ∈ metadataKeys, isReserved key = true := by decide
  exact hall e.1 hkey

theorem get?_filterMap (data : Entries String Value) (key : String) (ks : List String) :
    get? key (ks.filterMap (metadataEntry data)) =
      if key ∈ ks then (metadataEntry data key).map Prod.snd else none := by
  induction ks with
  | nil => rfl
  | cons k ks ih =>
      rw [List.filterMap_cons]
      cases he : metadataEntry data k with
      | none =>
          rw [ih]
          by_cases hk : key = k
          · simp [hk, he]
          · simp [hk]
      | some e =>
          obtain ⟨k', v⟩ := e
          obtain rfl : k' = k := metadataEntry_key he
          rw [get?_cons, ih]
          by_cases hk : key = k'
          · simp [hk, he]
          · simp [hk, Ne.symm hk]

/-- A metadata key reads as it did. -/
theorem lookup_metadataOf (data : Entries String Value) {key : String} (h : key ∈ metadataKeys) :
    Value.lookup (metadataOf data) key = Value.lookup data key := by
  rw [Value.lookup, Value.lookup, metadataOf_eq, get?_filterMap, if_pos h, metadataEntry]
  rcases get? key data with - | v
  · rfl
  · cases v <;> rfl

/-! ## Serialized metadata -/

namespace Definition

theorem lookup_type (d : Definition) : Value.lookup d.serialize "$type" = .text d.type := by
  simp [Value.lookup, serialize, get?_cons]

theorem lookup_version (d : Definition) :
    Value.lookup d.serialize "$version" = .int d.version := by
  simp [Value.lookup, serialize, get?_cons]

theorem lookup_context (d : Definition) : Value.lookup d.serialize "$context" =
    ((Text.nonEmpty? d.context).map Value.text).getD .null := by
  simp [Value.lookup, serialize, get?_cons]

theorem lookup_enrich (d : Definition) : Value.lookup d.serialize "$enrich" =
    if d.enrichments = [] then .null else .list (d.enrichments.map Enrichment.toValue) := by
  by_cases he : d.enrichments = [] <;> simp [Value.lookup, serialize, get?_cons, he]

theorem lookup_fields (d : Definition) :
    Value.lookup d.serialize "fields" = .map (Field.serializeAll d.fields) := by
  simp [Value.lookup, serialize, get?_cons]

end Definition

/-! ## Reading it again -/

theorem readContext_text (s inherited : Option String) :
    ∃ context, readContext ((s.map Value.text).getD .null) inherited = .ok context := by
  unfold readContext
  split
  · exact ⟨_, rfl⟩
  · cases s <;> exact ⟨_, rfl⟩

theorem readParams_mapValues (params : Entries String String) :
    readParams (mapValues Value.text params) = .ok params := by
  induction params with
  | nil => rfl
  | cons e params ih =>
      rw [mapValues] at ih
      rw [mapValues, List.map_cons, readParams, ih]
      rfl

/-- The entry of an attribute. -/
theorem get?_part (k key : String) (s : Option String) :
    get? k ((s.map fun s => [(key, Value.text s)]).getD []) =
      if key = k then s.map Value.text else none := by
  cases s <;> simp [get?_cons]

theorem requireText?_part (s : Option String) :
    requireText? ((s.map Value.text).getD .null) = .ok s := by
  cases s <;> rfl

/-- The entries of an enrichment. -/
def Enrichment.entries (e : Enrichment) : Entries String Value :=
  let part (key : String) (s : Option String) : Entries String Value :=
    (s.map fun s => [(key, Value.text s)]).getD []
  part "source" e.source ++ part "resource" e.resource ++
    (if e.params.isEmpty then [] else [("params", .map (mapValues Value.text e.params))]) ++
    part "cache" e.cache ++ part "auth" e.auth ++ part "prefix" e.keyWord

theorem Enrichment.ofEntries_entries (e : Enrichment) :
    Enrichment.ofEntries e.entries = .ok e := by
  have hpart : ∀ key s, get? key e.entries = s.map Value.text →
      requireText? (Value.lookup e.entries key) = .ok s := by
    intro key s h
    rw [Value.lookup, h, requireText?_part]
  have hsource := hpart "source" e.source (by simp [entries, get?_part])
  have hresource := hpart "resource" e.resource (by simp [entries, get?_part])
  have hcache := hpart "cache" e.cache (by simp [entries, get?_part])
  have hauth := hpart "auth" e.auth (by simp [entries, get?_part])
  have hkeyWord := hpart "prefix" e.keyWord (by simp [entries, get?_part])
  have hparams : get? "params" e.entries =
      if e.params = [] then none else some (.map (mapValues Value.text e.params)) := by
    simp [entries, get?_part]
  simp only [ofEntries, hsource, hresource, hcache, hauth, hkeyWord, hparams]
  by_cases hp : e.params = []
  · rw [if_pos hp, ← hp]
    rfl
  · rw [if_neg hp]
    simp only [readParams_mapValues]
    rfl

/-- An enrichment is read again. -/
theorem Enrichment.read_toValue (type : String) (e : Enrichment) :
    Enrichment.read type e.toValue = .ok e := by
  have htoValue : e.toValue = .map e.entries := rfl
  rw [htoValue, Enrichment.read, e.ofEntries_entries]

theorem readEnrichments_toValue (type : String) (es : List Enrichment) :
    readEnrichments type
      (if es = [] then .null else .list (es.map Enrichment.toValue)) = .ok es := by
  have hmap : (es.map Enrichment.toValue).mapM (Enrichment.read type) = .ok es := by
    induction es with
    | nil => rfl
    | cons e es ih =>
        rw [List.map_cons, List.mapM_cons, Enrichment.read_toValue, ih]
        rfl
  by_cases he : es = []
  · subst he
    rfl
  · rw [if_neg he]
    exact hmap

/-! ## Rebuilding -/

/-- A rebuilt definition is read from the raw mapping that stands for its serialized form. -/
theorem Definition.exists_read_of_rebuild {v : Value} {d : Definition}
    (h : (Definition.rebuild v).result = .ok d) :
    ∃ raw, rebuiltRaw v = .ok raw ∧ (Definition.read raw).result = .ok d := by
  simp only [Definition.rebuild, Outcome.result_bind, Outcome.result_lift, bind_eq_ok] at h
  exact h

end Entity
