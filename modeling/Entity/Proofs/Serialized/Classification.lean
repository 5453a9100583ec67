import Entity.Proofs.Definition.Reading
import Entity.Proofs.Serialized.Metadata
import Entity.Proofs.Serialized.Survival

/-!
# Rebuilt definitions

A definition is serialized and rebuilt.  Main statement: the fields come back under their names, in
order, with their sources, types and options, exactly when every field survives.
-/

namespace Entity

open Entries

/-! ## Fields that came back -/

namespace Field

/-- The fields that come back for fields, in order and under the same names. -/
def AllBack (fs fs' : List (String × Field)) : Prop :=
  List.Forall₂ (fun e e' => e'.1 = e.1 ∧ (e'.2.source = e.2.source ↔ e.2.KeepsSource) ∧
    e'.2.type = e.2.keptType ∧ e'.2.options = e.2.keptOptions) fs fs'

end Field

/-- The names of the fields in order, each with its source, its type and its options. -/
def Definition.classification (d : Definition) :
    List (String × Source × Primitive × Entries String Value) :=
  d.fields.map fun e => (e.1, e.2.source, e.2.type, e.2.options)

/-- What came back is classified as before exactly when source, type and options are kept. -/
theorem Field.AllBack.classification_iff {d d' : Definition}
    (h : Field.AllBack d.fields d'.fields) : d'.classification = d.classification ↔
      ∀ e ∈ d.fields, e.2.KeepsSource ∧ e.2.keptType = e.2.type ∧
        e.2.keptOptions = e.2.options := by
  unfold Definition.classification
  revert h
  generalize d.fields = fs
  generalize d'.fields = fs'
  intro h
  induction h with
  | nil => simp
  | @cons e e' fs fs' he _ ih =>
      obtain ⟨hname, hsource, htype, hoptions⟩ := he
      simp [hname, hsource, htype, hoptions, ih, and_assoc]

/-! ## Routing -/

/-- Reserved keys are passed over. -/
theorem Routed.result_addAll_reserved (type : String) (version : Int) (r : Routed)
    {es : Entries String Value} (h : ∀ e ∈ es, isReserved e.1 = true)
    (es' : Entries String Value) :
    (r.addAll type version (es ++ es')).result = (r.addAll type version es').result := by
  induction es with
  | nil => rfl
  | cons e es ih =>
      have hadd : r.add type version e.1 e.2 = pure r := by
        unfold Routed.add
        rw [if_pos (h e (by simp))]
      rw [List.cons_append, Routed.addAll, hadd, Outcome.result_bind]
      exact ih fun e' he' => h e' (by simp [he'])

/-- A value that is no function is routed to the fields. -/
theorem Routed.add_eq_addField (type : String) (version : Int) (r : Routed) {key : String}
    {v : Value} (hkey : isReserved key = false) (hv : v.map?.isSome ∨ v.items?.isSome) :
    r.add type version key v = r.addField key v := by
  unfold Routed.add
  rw [if_neg (by simp [hkey])]
  split
  · simp [Value.map?, Value.items?] at hv
  · rfl

namespace Field

/-- The fields that are read from raw values, in order and under the same names. -/
def AllRead (raws : List (String × Value)) (fs : List (String × Field)) : Prop :=
  List.Forall₂ (fun r e => e.1 = r.1 ∧ (Field.read r.1 r.2).result = .ok e.2) raws fs

/-- What is read from rebuilt values comes back. -/
theorem AllRebuilt.allBack {fs fs' : List (String × Field)} {raws : List (String × Value)}
    (h : AllRebuilt fs raws) (hread : ∀ e ∈ fs, e.2.Rereads) (hall : AllRead raws fs') :
    AllBack fs fs' := by
  induction h generalizing fs' with
  | nil =>
      cases hall
      exact .nil
  | @cons e r fs raws hr _ ih =>
      cases hall with
      | cons he hrest =>
          obtain ⟨hname, hrebuilt⟩ := hr
          obtain ⟨hname', hf⟩ := he
          obtain ⟨f', hf', hback⟩ := hrebuilt.read (hread e (by simp)) r.1
          rw [hf] at hf'
          cases hf'
          exact .cons ⟨hname'.trans hname, hback⟩ (ih (fun e he => hread e (by simp [he])) hrest)

/-- Fields that are read again are routed in order. -/
theorem AllRebuilt.addAll {fs : List (String × Field)} {raws : List (String × Value)}
    (h : AllRebuilt fs raws) (hnames : ∀ e ∈ fs, isReserved e.1 = false)
    (hread : ∀ e ∈ fs, e.2.Rereads) (type : String) (version : Int) (r : Routed)
    (hnodup : (keys (r.fields ++ fs)).Nodup) :
    ∃ r' fs', (r.addAll type version raws).result = .ok r' ∧ r'.fields = r.fields ++ fs' ∧
      AllRead raws fs' := by
  induction h generalizing r with
  | nil => exact ⟨r, [], rfl, by simp, .nil⟩
  | @cons e raw fs raws hraw _ ih =>
      obtain ⟨name, f⟩ := e
      obtain ⟨name', v⟩ := raw
      obtain ⟨rfl, hrebuilt⟩ := hraw
      obtain ⟨f', hf', -⟩ := hrebuilt.read (hread _ (by simp)) name'
      have hkey := hnames _ (List.mem_cons_self)
      have hnew : name' ∉ keys r.fields := by
        intro hmem
        simp only [keys, List.map_append, List.map_cons, List.nodup_append] at hnodup
        exact hnodup.2.2 name' hmem name' (by simp) rfl
      have hput : put name' f' r.fields = r.fields ++ [(name', f')] := put_of_notMem hnew f'
      obtain ⟨r', fs', hr', hfields, hall⟩ := ih
        (fun e he => hnames e (by simp [he])) (fun e he => hread e (by simp [he]))
        { r with fields := r.fields ++ [(name', f')] } (by simpa [keys] using hnodup)
      refine ⟨r', (name', f') :: fs', ?_, by simpa using hfields, .cons ⟨rfl, hf'⟩ hall⟩
      rw [Routed.addAll, Routed.add_eq_addField type version r hkey hrebuilt.built,
        Routed.addField, Outcome.result_bind, Outcome.result_bind, hf']
      simpa only [Except.bind, Outcome.result_pure, hput] using hr'

/-- A field that is not read again stops the routing. -/
theorem AllRebuilt.addAll_fails {fs : List (String × Field)} {raws : List (String × Value)}
    (h : AllRebuilt fs raws) (hnames : ∀ e ∈ fs, isReserved e.1 = false)
    (hread : ¬ ∀ e ∈ fs, e.2.Rereads) (type : String) (version : Int) (r : Routed) :
    ∃ err, (r.addAll type version raws).result = .error err := by
  induction h generalizing r with
  | nil => simp at hread
  | @cons e raw fs raws hraw _ ih =>
      obtain ⟨name, f⟩ := e
      obtain ⟨name', v⟩ := raw
      obtain ⟨rfl, hrebuilt⟩ := hraw
      have hkey := hnames _ (List.mem_cons_self)
      rw [Routed.addAll, Routed.add_eq_addField type version r hkey hrebuilt.built,
        Routed.addField, Outcome.result_bind, Outcome.result_bind]
      by_cases hf : f.Rereads
      · obtain ⟨f', hf', -⟩ := hrebuilt.read hf name'
        have hrest : ¬ ∀ e ∈ fs, e.2.Rereads := by
          intro hall
          exact hread (List.forall_mem_cons.mpr ⟨hf, hall⟩)
        rw [hf']
        exact ih (fun e he => hnames e (by simp [he])) hrest _
      · obtain ⟨err, herr⟩ := hrebuilt.fails hf name'
        exact ⟨err, by rw [herr]; rfl⟩

end Field

/-! ## Rebuilding -/

theorem Field.AllRebuilt.keys_eq {fs : List (String × Field)} {raws : List (String × Value)}
    (h : Field.AllRebuilt fs raws) : keys raws = keys fs := by
  induction h with
  | nil => rfl
  | cons hr _ ih =>
      rw [keys] at ih ⊢
      rw [List.map_cons, ih, hr.1]
      rfl

namespace Definition

/-- The raw mapping that a definition is rebuilt from: the metadata, then the fields. -/
theorem rebuiltRaw_serialize {d : Definition} (h : FormedFields d.fields)
    {raws : List (String × Value)} (hraws : rawOfAll (Field.serializeAll d.fields) = .ok raws)
    (hall : Field.AllRebuilt d.fields raws) :
    rebuiltRaw (.map d.serialize) = .ok (metadataOf d.serialize ++ raws) := by
  have hnodup : (keys (metadataOf d.serialize ++ raws)).Nodup := by
    rw [keys, List.map_append]
    refine List.nodup_append.mpr ⟨(keys_metadataOf_sublist _).nodup (by decide), ?_, ?_⟩
    · rw [← keys, hall.keys_eq]
      exact h.nodup
    · intro key hkey key' hkey' heq
      obtain ⟨e, he, rfl⟩ := List.mem_map.mp hkey
      obtain ⟨r, hr, rfl⟩ := List.mem_map.mp hkey'
      have hreserved := isReserved_of_mem_metadataOf d.serialize e he
      rw [heq, hall.unreserved h.unreserved r hr] at hreserved
      cases hreserved
  rw [← merge_eq_append hnodup, rebuiltRaw, documentEntries]
  change (if (Value.lookup d.serialize "fields").isFalsy = true then _ else _) = _
  rw [lookup_fields]
  cases hempty : Field.serializeAll d.fields with
  | nil =>
      rw [hempty, rawOfAll] at hraws
      cases hraws
      rfl
  | cons e es =>
      rw [if_neg (by simp [Value.isFalsy]), rawFields, ← hempty, hraws]
      rfl

/-- Metadata is looked up in the raw mapping as in the serialized form. -/
theorem lookup_rebuiltRaw (d : Definition) {raws : List (String × Value)}
    (hraws : ∀ r ∈ raws, isReserved r.1 = false) (key : String) (hkey : key ∈ metadataKeys) :
    Value.lookup (metadataOf d.serialize ++ raws) key = Value.lookup d.serialize key := by
  have hnone : get? key raws = none := by
    refine get?_eq_none_iff.mpr fun hmem => ?_
    obtain ⟨r, hr, rfl⟩ := List.mem_map.mp hmem
    have hall : ∀ key ∈ metadataKeys, isReserved key = true := by decide
    have hreserved := hall _ hkey
    rw [hraws r hr] at hreserved
    cases hreserved
  rw [← lookup_metadataOf d.serialize hkey, Value.lookup, Value.lookup, get?_append, hnone,
    Option.or_none]

/-- Once its fields are routed, a rebuilt definition is read. -/
theorem result_read_rebuiltRaw {d : Definition} (h : d.Sound) {raws : List (String × Value)}
    (hraws : ∀ r ∈ raws, isReserved r.1 = false) :
    (∀ r, (Routed.addAll d.type d.version {} raws).result = .ok r →
      ∃ d', (Definition.read (metadataOf d.serialize ++ raws)).result = .ok d' ∧
        d'.fields = r.fields) ∧
    ∀ e, (Routed.addAll d.type d.version {} raws).result = .error e →
      (Definition.read (metadataOf d.serialize ++ raws)).result = .error e := by
  have htype := lookup_rebuiltRaw d hraws "$type" (by decide)
  have hversion := lookup_rebuiltRaw d hraws "$version" (by decide)
  have hcontext := lookup_rebuiltRaw d hraws "$context" (by decide)
  have henrich := lookup_rebuiltRaw d hraws "$enrich" (by decide)
  have hget : get? "$type" (metadataOf d.serialize ++ raws) = some (.text d.type) := by
    rw [lookup_type, Value.lookup] at htype
    cases hg : get? "$type" (metadataOf d.serialize ++ raws) with
    | none => simp [hg] at htype
    | some v => simpa [hg] using htype
  have hreadVersion : readVersion d.type (.int d.version) = .ok d.version := by
    rw [readVersion, if_neg (by have := h.version; omega)]
  obtain ⟨context, hreadContext⟩ := readContext_text (Text.nonEmpty? d.context)
    (readParent (Value.lookup (metadataOf d.serialize ++ raws) "$extends")).2
  have hempty : d.type.isEmpty = false := by simpa using h.type
  -- metadata keys are reserved, so that routing passes them over
  have hrouted := Routed.result_addAll_reserved d.type d.version {}
    (isReserved_of_mem_metadataOf d.serialize) raws
  rw [lookup_version] at hversion
  rw [lookup_context] at hcontext
  rw [lookup_enrich] at henrich
  simp only [Definition.read, hget, hempty, hversion, hcontext, henrich, Bool.false_eq_true,
    if_false, Outcome.result_bind, Outcome.result_pure, Outcome.result_lift, Outcome.result_warnAll,
    hreadVersion, hreadContext, readEnrichments_toValue, hrouted, Except.bind]
  constructor
  · intro r hr
    rw [hr]
    exact ⟨_, rfl, rfl⟩
  · intro e he
    rw [he]

/-! ## Survival -/

/-- When all fields are read again, so is the definition. -/
theorem Sound.exists_allRead_rebuild {d : Definition} (h : d.Sound)
    (hread : ∀ e ∈ d.fields, e.2.Rereads) :
    ∃ raws d', Field.AllRebuilt d.fields raws ∧
      (Definition.rebuild (.map d.serialize)).result = .ok d' ∧ Field.AllRead raws d'.fields := by
  obtain ⟨raws, hraws, hall⟩ :=
    Field.exists_allRebuilt fun e he => (h.fields.formed e he).exists_rebuilt
  obtain ⟨r, fs', hr, hfields, hreads⟩ := hall.addAll h.fields.unreserved hread d.type d.version
    {} (by simpa using h.fields.nodup)
  obtain ⟨d', hd', hd'fields⟩ :=
    (result_read_rebuiltRaw h (hall.unreserved h.fields.unreserved)).1 r hr
  refine ⟨raws, d', hall, ?_, ?_⟩
  · simp only [Definition.rebuild, rebuiltRaw_serialize h.fields hraws hall, Outcome.result_bind,
      Outcome.result_lift]
    exact hd'
  · rw [hd'fields, hfields]
    simpa using hreads

theorem Sound.exists_result_rebuild {d : Definition} (h : d.Sound)
    (hread : ∀ e ∈ d.fields, e.2.Rereads) :
    ∃ d', (Definition.rebuild (.map d.serialize)).result = .ok d' ∧
      Field.AllBack d.fields d'.fields := by
  obtain ⟨raws, d', hall, hd', hreads⟩ := h.exists_allRead_rebuild hread
  exact ⟨d', hd', hall.allBack hread hreads⟩

theorem Sound.exists_error_rebuild {d : Definition} (h : d.Sound)
    (hread : ¬ ∀ e ∈ d.fields, e.2.Rereads) :
    ∃ err, (Definition.rebuild (.map d.serialize)).result = .error err := by
  obtain ⟨raws, hraws, hall⟩ :=
    Field.exists_allRebuilt fun e he => (h.fields.formed e he).exists_rebuilt
  obtain ⟨err, herr⟩ := hall.addAll_fails h.fields.unreserved hread d.type d.version {}
  refine ⟨err, ?_⟩
  simp only [Definition.rebuild, rebuiltRaw_serialize h.fields hraws hall, Outcome.result_bind,
    Outcome.result_lift]
  exact (result_read_rebuiltRaw h (hall.unreserved h.fields.unreserved)).2 err herr

/-- All fields of a definition that was rebuilt were read again. -/
theorem Sound.rereads_of_rebuild {d d' : Definition} (h : d.Sound)
    (hd' : (Definition.rebuild (.map d.serialize)).result = .ok d') :
    ∀ e ∈ d.fields, e.2.Rereads := by
  by_contra hno
  obtain ⟨err, herr⟩ := h.exists_error_rebuild hno
  rw [hd'] at herr
  cases herr

/-- The fields of a definition that was rebuilt are read from what the fields are rebuilt from. -/
theorem Sound.exists_allRead_of_rebuild {d d' : Definition} (h : d.Sound)
    (hd' : (Definition.rebuild (.map d.serialize)).result = .ok d') :
    ∃ raws, Field.AllRebuilt d.fields raws ∧ Field.AllRead raws d'.fields := by
  have hread := h.rereads_of_rebuild hd'
  obtain ⟨raws, d'', hall, hd'', hreads⟩ := h.exists_allRead_rebuild hread
  rw [hd'] at hd''
  cases hd''
  exact ⟨raws, hall, hreads⟩

/-- **When a round trip keeps the classification.**  A definition that is read, serialized and
rebuilt has the same fields, with the same sources, types and options, exactly when every field
survives. -/
theorem rebuild_serialize_iff {raw : Entries String Value} (hraw : (Value.map raw).WellKeyed)
    {d : Definition} (hd : (Definition.read raw).result = .ok d) :
    (∃ d', (Definition.rebuild (.map d.serialize)).result = .ok d' ∧
      d'.classification = d.classification) ↔ ∀ e ∈ d.fields, e.2.Survives := by
  have hsound := sound_of_read hraw hd
  constructor
  · rintro ⟨d', hd', hsame⟩ e he
    have hread : ∀ e ∈ d.fields, e.2.Rereads := by
      by_contra hno
      obtain ⟨err, herr⟩ := hsound.exists_error_rebuild hno
      rw [hd'] at herr
      cases herr
    -- rebuilding is a function, so that what came back is what is compared
    obtain ⟨d'', hd'', hback⟩ := hsound.exists_result_rebuild hread
    obtain rfl : d'' = d' := by
      rw [hd'] at hd''
      cases hd''
      rfl
    obtain ⟨hsource, htype, hoptions⟩ := hback.classification_iff.mp hsame e he
    exact ⟨hread e he, hsource, e.2.keptType_eq_iff.mp htype,
      e.2.keptOptions_eq_iff.mp hoptions⟩
  · intro hsurvive
    obtain ⟨d', hd', hback⟩ := hsound.exists_result_rebuild fun e he => (hsurvive e he).rereads
    refine ⟨d', hd', hback.classification_iff.mpr fun e he => ?_⟩
    have hs := hsurvive e he
    exact ⟨hs.source, e.2.keptType_eq_iff.mpr hs.type, e.2.keptOptions_eq_iff.mpr hs.options⟩

end Definition

/-! ### Fields that survive -/

namespace Pitch

/-- An input, a prompt, and a choice with an option. -/
def raw : Entries String Value :=
  [("$type", .text "Startup"), ("name", .text "Company name"),
    ("pitch", .text "Pitch for \x7bname\x7d"),
    ("stage", .map [("$input", .text "Seed | Growth"), ("required", .bool true)])]

def definition : Definition where
  raw := raw
  type := "Startup"
  id := none
  version := 1
  context := none
  parent := none
  seed := .null
  enrichments := []
  fields := [
    ("name", { name := "name", description := "Company name", source := .input }),
    ("pitch", {
      name := "pitch"
      description := "Pitch for \x7bname\x7d"
      source := .generate
      generation := some { prompt := "Pitch for \x7bname\x7d", placeholders := ["name"] } }),
    ("stage", {
      name := "stage"
      description := "Seed | Growth"
      source := .input
      type := .enum
      enumValues := some ["Seed", "Growth"]
      options := [("required", .bool true)] })]
  cascades := []
  events := []
  schedules := []
  crons := []
  migrations := []

theorem wellKeyed_raw : (Value.map raw).WellKeyed := by
  refine .map (by decide) ?_
  simp only [raw, List.forall_mem_cons]
  refine ⟨.leaf rfl rfl, .leaf rfl rfl, .leaf rfl rfl, .map (by decide) ?_, by simp⟩
  simp only [List.forall_mem_cons]
  exact ⟨.leaf rfl rfl, .leaf rfl rfl, by simp⟩

theorem survives : ∀ e ∈ definition.fields, e.2.Survives := by
  simp only [definition, List.forall_mem_cons]
  refine ⟨?_, ?_, ?_, by simp⟩
  · exact Field.survives_of_marked rfl (by decide) ⟨none, rfl⟩
  · exact Field.survives_of_marked rfl (by decide) trivial
  · exact Field.survives_of_marked rfl (by decide) ⟨none, rfl⟩

end Pitch

/-- The general statement for a definition whose fields all survive. -/
theorem rebuild_serialize_iff_pitch :
    ((Value.map Pitch.raw).WellKeyed ∧ (Definition.read Pitch.raw).result = .ok Pitch.definition) ∧
      (∀ e ∈ Pitch.definition.fields, e.2.Survives) ∧
      ∃ d', (Definition.rebuild (.map Pitch.definition.serialize)).result = .ok d' ∧
        d'.classification = Pitch.definition.classification :=
  ⟨⟨Pitch.wellKeyed_raw, rfl⟩, Pitch.survives,
    (Definition.rebuild_serialize_iff Pitch.wellKeyed_raw rfl).mpr Pitch.survives⟩

/-! ### A field that does not survive -/

namespace Tags

/-- A list of generated tags with an option. -/
def raw : Entries String Value :=
  [("$type", .text "Post"),
    ("tags", .map [("$generate", .list [.text "x"]), ("required", .bool true)])]

def definition : Definition where
  raw := raw
  type := "Post"
  id := none
  version := 1
  context := none
  parent := none
  seed := .null
  enrichments := []
  fields := [("tags", {
    name := "tags"
    description := "x"
    source := .generate
    type := .array
    item := some {
      name := "item", description := "x", source := .generate
      generation := some { prompt := "x" } }
    generation := some { prompt := "x" }
    options := [("required", .bool true)] })]
  cascades := []
  events := []
  schedules := []
  crons := []
  migrations := []

theorem wellKeyed_raw : (Value.map raw).WellKeyed := by
  refine .map (by decide) ?_
  simp only [raw, List.forall_mem_cons]
  refine ⟨.leaf rfl rfl, .map (by decide) ?_, by simp⟩
  simp only [List.forall_mem_cons]
  refine ⟨.list ?_, .leaf rfl rfl, by simp⟩
  simp only [List.forall_mem_cons]
  exact ⟨.leaf rfl rfl, by simp⟩

end Tags

/-- The options of a list do not come back. -/
theorem rebuild_serialize_tags :
    (Value.map Tags.raw).WellKeyed ∧ (Definition.read Tags.raw).result = .ok Tags.definition ∧
      Tags.definition.classification =
        [("tags", .generate, .array, [("required", .bool true)])] ∧
      ∃ d', (Definition.rebuild (.map Tags.definition.serialize)).result = .ok d' ∧
        d'.classification = [("tags", .generate, .array, [])] ∧
        d'.classification ≠ Tags.definition.classification := by
  refine ⟨Tags.wellKeyed_raw, rfl, rfl, _, rfl, rfl, ?_⟩
  intro h
  cases h

end Entity
