import Entity.Proofs.Entries
import Entity.Serialized.Rebuild

/-!
# The entries of serialized fields

Main statements: what stands under each key that rebuilding looks at, as a function of the field.
-/

namespace Entity

open Entries

/-! ## Optional entries -/

section Optional

variable (key : String) (k : String)

@[simp] theorem get?_unless (p : Prop) [Decidable p] (v : Value) :
    get? k (if p then [] else [(key, v)]) = if key = k ∧ ¬p then some v else none := by
  by_cases hp : p <;> simp [hp, get?_cons]

theorem keys_unless_sublist (p : Prop) [Decidable p] (v : Value) :
    (keys (if p then [] else [(key, v)])).Sublist [key] := by
  by_cases hp : p <;> simp [hp, keys]

@[simp] theorem get?_textEntry (s : Option String) :
    get? k (textEntry key s) = if key = k then (Text.nonEmpty? s).map Value.text else none := by
  unfold textEntry
  cases Text.nonEmpty? s <;> simp [get?_cons]

theorem keys_textEntry_sublist (s : Option String) :
    (keys (textEntry key s)).Sublist [key] := by
  unfold textEntry
  cases Text.nonEmpty? s <;> simp [keys]

end Optional

/-! ## Cascades -/

namespace Cascade

/-- The keys that a cascade may have entries under. -/
def entryKeys : List String :=
  ["operator", "target", "generative", "array", "predicate", "route", "filters",
    "rejected_filters", "code"]

theorem keys_toEntries_sublist (c : Cascade) : (keys c.toEntries).Sublist entryKeys := by
  have h := ((((List.Sublist.refl ["operator", "target", "generative", "array"]).append
    (keys_textEntry_sublist "predicate" c.predicate)).append
    (keys_textEntry_sublist "route" c.route)).append
    (keys_unless_sublist "filters" c.filters.isEmpty (.list (c.filters.map Filter.toValue)))).append
    (keys_unless_sublist "rejected_filters" c.rejected.isEmpty (Value.texts c.rejected))
  simp only [keys] at h
  cases hs : c.selector with
  | none =>
      simp only [toEntries, keys, hs, List.map_append, List.append_nil]
      exact h.trans (by decide)
  | some s =>
      simp only [toEntries, keys, hs, List.map_append]
      exact h.append (.refl ["code"])

theorem nodup_keys_toEntries (c : Cascade) : (keys c.toEntries).Nodup :=
  c.keys_toEntries_sublist.nodup (by decide)

theorem get?_toEntries_of_notMem (c : Cascade) {key : String} (h : key ∉ entryKeys) :
    get? key c.toEntries = none :=
  get?_eq_none_iff.mpr fun hk => h (c.keys_toEntries_sublist.subset hk)

theorem get?_array (c : Cascade) : get? "array" c.toEntries = some (.bool c.isArray) := by
  simp [toEntries, get?_cons]

theorem get?_code (c : Cascade) :
    get? "code" c.toEntries = c.selector.map Computation.codeValue := by
  cases hs : c.selector <;> simp [toEntries, get?_cons, hs]

theorem get?_operator (c : Cascade) :
    get? "operator" c.toEntries = some (.text c.operator.token) := by
  simp [toEntries, get?_cons]

theorem get?_target (c : Cascade) : get? "target" c.toEntries = some (.text c.target) := by
  simp [toEntries, get?_cons]

theorem get?_predicate (c : Cascade) :
    get? "predicate" c.toEntries = (Text.nonEmpty? c.predicate).map Value.text := by
  cases hs : c.selector <;> simp [toEntries, get?_cons, hs]

theorem get?_route (c : Cascade) :
    get? "route" c.toEntries = (Text.nonEmpty? c.route).map Value.text := by
  cases hs : c.selector <;> simp [toEntries, get?_cons, hs]

theorem get?_filters (c : Cascade) : get? "filters" c.toEntries =
    if c.filters = [] then none else some (.list (c.filters.map Filter.toValue)) := by
  cases hs : c.selector <;> simp [toEntries, get?_cons, hs]

theorem get?_rejected (c : Cascade) : get? "rejected_filters" c.toEntries =
    if c.rejected = [] then none else some (Value.texts c.rejected) := by
  cases hs : c.selector <;> simp [toEntries, get?_cons, hs]

end Cascade

/-! ## Fields -/

namespace Field

/-- The entries of a field. -/
def entries (f : Field) : Entries String Value :=
  f.headEntries ++ serializeNested f.nested ++ serializeItem f.item ++ f.tailEntries

theorem serialize_eq (f : Field) : f.serialize = .map f.entries := by
  cases f
  simp only [serialize, entries]

/-- The alternatives of an enumeration, when there are any. -/
def alternatives (f : Field) : List String := f.enumValues.getD []

/-- The entry of alternatives. -/
def enumEntries : List String → Entries String Value
  | [] => []
  | v :: vs => [("enum", Value.texts (v :: vs))]

/-- The entries that do not come from a cascade. -/
def ownEntries (f : Field) : Entries String Value :=
  [("source", .text f.source.name), ("type", .text f.type.name), ("value", .text f.literal)] ++
  enumEntries f.alternatives ++ (f.generation.map Generation.toEntries).getD [] ++
  (f.compute.map fun c => [("code", c.codeValue)]).getD []

theorem headEntries_eq (f : Field) :
    f.headEntries = merge f.ownEntries ((f.cascade.map Cascade.toEntries).getD []) := by
  obtain ⟨_, _, _, _, enumValues, _, _, _, _, _, _, _, compute, _, _⟩ := f
  rcases enumValues with - | - | ⟨v, vs⟩ <;> cases compute <;> rfl

/-- What a cascade writes is seen before what the field writes itself. -/
theorem get?_headEntries (f : Field) (key : String) :
    get? key f.headEntries =
      (f.cascade.bind fun c => get? key c.toEntries).or (get? key f.ownEntries) := by
  rw [headEntries_eq]
  cases f.cascade with
  | none => rfl
  | some c => exact get?_merge c.nodup_keys_toEntries key f.ownEntries

@[simp] theorem get?_serializeNested (key : String) (nested : Option (List (String × Field))) :
    get? key (serializeNested nested) =
      if "fields" = key then nested.map fun fs => .map (serializeAll fs) else none := by
  cases nested <;> simp [serializeNested, get?_cons]

@[simp] theorem get?_serializeItem (key : String) (item : Option Field) :
    get? key (serializeItem item) = if "item" = key then item.map serialize else none := by
  cases item <;> simp [serializeItem, get?_cons]

@[simp] theorem get?_tailEntries (key : String) (f : Field) :
    get? key f.tailEntries =
      if "options" = key ∧ f.options ≠ [] then some (.map f.options)
      else if "issues" = key ∧ f.issues ≠ [] then some (Value.texts f.issues) else none := by
  by_cases ho : f.options = [] <;> by_cases hi : f.issues = [] <;>
    simp [tailEntries, get?_cons, ho, hi]

@[simp] theorem get?_enumEntries (key : String) (vs : List String) :
    get? key (enumEntries vs) = if "enum" = key ∧ vs ≠ [] then some (Value.texts vs) else none := by
  cases vs <;> simp [enumEntries, get?_cons]

@[simp] theorem get?_generation (key : String) (g : Option Generation) :
    get? key ((g.map Generation.toEntries).getD []) =
      if "variables" = key then g.map fun g => Value.texts g.placeholders
      else if "schema" = key then g.bind fun g => g.schema.map Value.map
      else if "model" = key then g.bind fun g => (Text.nonEmpty? g.model).map Value.text
      else none := by
  cases g with
  | none => simp
  | some g =>
      obtain ⟨_, schema, _, _⟩ := g
      cases schema with
      | none =>
          by_cases hs : "schema" = key
          · subst hs
            simp [Generation.toEntries, get?_cons]
          · simp [Generation.toEntries, get?_cons, hs]
      | some entries => simp [Generation.toEntries, get?_cons]

@[simp] theorem get?_compute (key : String) (c : Option Computation) :
    get? key ((c.map fun c => [("code", c.codeValue)]).getD []) =
      if "code" = key then c.map Computation.codeValue else none := by
  cases c <;> simp [get?_cons]

/-! ### What rebuilding looks at -/

/-- A key that no cascade writes under, read among the entries. -/
theorem get?_entries_of_notMem {key : String} (h : key ∉ Cascade.entryKeys) (f : Field) :
    get? key f.entries = get? key (f.ownEntries ++ serializeNested f.nested ++
      serializeItem f.item ++ f.tailEntries) := by
  have hcascade : (f.cascade.bind fun c => get? key c.toEntries) = none := by
    cases f.cascade with
    | none => rfl
    | some c => exact c.get?_toEntries_of_notMem h
  simp [entries, get?_headEntries, hcascade]

theorem get?_source (f : Field) : get? "source" f.entries = some (.text f.source.name) := by
  rw [get?_entries_of_notMem (by decide)]
  simp [ownEntries, get?_cons]

theorem get?_type (f : Field) : get? "type" f.entries = some (.text f.type.name) := by
  rw [get?_entries_of_notMem (by decide)]
  simp [ownEntries, get?_cons]

theorem get?_value (f : Field) : get? "value" f.entries = some (.text f.literal) := by
  rw [get?_entries_of_notMem (by decide)]
  simp [ownEntries, get?_cons]

theorem get?_enum (f : Field) : get? "enum" f.entries =
    if f.alternatives = [] then none else some (Value.texts f.alternatives) := by
  rw [get?_entries_of_notMem (by decide)]
  simp [ownEntries, get?_cons]

theorem get?_schema (f : Field) : get? "schema" f.entries =
    f.generation.bind fun g => g.schema.map Value.map := by
  rw [get?_entries_of_notMem (by decide)]
  simp [ownEntries, get?_cons]

theorem get?_model (f : Field) : get? "model" f.entries =
    f.generation.bind fun g => (Text.nonEmpty? g.model).map Value.text := by
  rw [get?_entries_of_notMem (by decide)]
  simp [ownEntries, get?_cons]

theorem get?_fields (f : Field) : get? "fields" f.entries =
    f.nested.map fun fs => .map (serializeAll fs) := by
  rw [get?_entries_of_notMem (by decide)]
  simp [ownEntries, get?_cons]

theorem get?_item (f : Field) : get? "item" f.entries = f.item.map serialize := by
  rw [get?_entries_of_notMem (by decide)]
  simp [ownEntries, get?_cons]

theorem get?_options (f : Field) : get? "options" f.entries =
    if f.options = [] then none else some (.map f.options) := by
  rw [get?_entries_of_notMem (by decide)]
  simp [ownEntries, get?_cons]

theorem get?_array (f : Field) : get? "array" f.entries =
    f.cascade.map fun c => .bool c.isArray := by
  cases hc : f.cascade <;>
    simp [entries, get?_headEntries, hc, Cascade.get?_array, ownEntries, get?_cons]

theorem get?_variables (f : Field) : get? "variables" f.entries =
    f.generation.map fun g => Value.texts g.placeholders := by
  rw [get?_entries_of_notMem (by decide)]
  simp [ownEntries, get?_cons]

/-- The keys of the entries that do not come from a cascade. -/
def ownKeys : List String :=
  ["source", "type", "value", "enum", "variables", "schema", "model", "code", "fields", "item",
    "options", "issues"]

/-- A key that only a cascade writes under, read among the entries. -/
theorem get?_entries_of_cascade {key : String} (h : key ∉ ownKeys) (f : Field) :
    get? key f.entries = f.cascade.bind fun c => get? key c.toEntries := by
  simp only [ownKeys, List.mem_cons, List.not_mem_nil, or_false, not_or, eq_comm (a := key)] at h
  simp [entries, get?_headEntries, ownEntries, get?_cons, h]

/-- The code of the selection of a cascade, or else of the computation. -/
theorem get?_code (f : Field) : get? "code" f.entries =
    ((f.cascade.bind Cascade.selector).or f.compute).map Computation.codeValue := by
  cases hc : f.cascade with
  | none => simp [entries, get?_headEntries, hc, ownEntries, get?_cons]
  | some c =>
      cases hs : c.selector <;>
        simp [entries, get?_headEntries, hc, Cascade.get?_code, ownEntries, get?_cons, hs]

end Field

end Entity
