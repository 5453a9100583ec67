import Entity.Proofs.Serialized.Restored
import Entity.Proofs.Serialized.Settled

/-!
# Serialized forms that do not change

A definition is serialized and rebuilt, and what came back is serialized and rebuilt once more.
Main statement: the second trip changes nothing exactly when every field that came back is settled.
-/

namespace Entity

open Entries Entity.Text

/-! ## Definitions that do not change -/

theorem textEntry_nonEmpty? (key : String) (s : Option String) :
    textEntry key (nonEmpty? s) = textEntry key s := by
  rw [textEntry, textEntry, nonEmpty?_nonEmpty?]

namespace Definition

/-- Every field that came back was read from what a field of its name is rebuilt from. -/
theorem Sound.exists_of_mem_rebuilt {d d₁ : Definition} (h : d.Sound)
    (hd₁ : (Definition.rebuild (.map d.serialize)).result = .ok d₁) {e : String × Field}
    (he : e ∈ d₁.fields) : ∃ e' ∈ d.fields, e.1 = e'.1 ∧
      ∃ raw, e'.2.Rebuilt raw ∧ (Field.read e.1 raw).result = .ok e.2 := by
  obtain ⟨raws, hall, hread⟩ := h.exists_allRead_of_rebuild hd₁
  obtain ⟨r, hr, hname, hback⟩ := Field.exists_of_forall₂ hread he
  obtain ⟨e', he', hname', hraw⟩ := Field.exists_of_forall₂ hall hr
  exact ⟨e', he', hname.trans hname', r.2, hraw, hname ▸ hback⟩

theorem Sound.comes_of_rebuild {d d₁ : Definition} (h : d.Sound)
    (hd₁ : (Definition.rebuild (.map d.serialize)).result = .ok d₁) :
    ∀ e ∈ d₁.fields, Field.Regained e.1 e.2 ∧ e.2.Formed := by
  intro e he
  obtain ⟨e', he', -, raw, hraw, hread⟩ := h.exists_of_mem_rebuilt hd₁ he
  have hcomes := (h.fields.formed e' he').comes hraw hread
  exact ⟨hcomes.regained, hcomes.formed⟩

/-- A definition that was rebuilt is sound. -/
theorem Sound.of_rebuild {d d₁ : Definition} (h : d.Sound)
    (hd₁ : (Definition.rebuild (.map d.serialize)).result = .ok d₁) : d₁.Sound := by
  have hrestores := h.restores_of_rebuild hd₁
  refine ⟨hrestores.type ▸ h.type, hrestores.version ▸ h.version, ⟨?_, ?_, ?_⟩, ?_⟩
  · rw [hrestores.names]
    exact h.fields.nodup
  · intro e he
    obtain ⟨e', he', hname, -⟩ := h.exists_of_mem_rebuilt hd₁ he
    rw [hname]
    exact h.fields.unreserved e' he'
  · exact fun e he => (h.comes_of_rebuild hd₁ e he).2
  · rw [hrestores.migrations]
    exact List.nodup_nil

/-- No handlers come back, on the first trip and on the next. -/
theorem Restores.handlersValue_eq {d d₁ d₂ : Definition} (h : d.Restores d₁)
    (h' : d₁.Restores d₂) : d₂.handlersValue = d₁.handlersValue := by
  simp only [handlersValue, h.events, h.schedules, h.crons, h.migrations, h'.events,
    h'.schedules, h'.crons, h'.migrations]

/-- The serialized form changes only as its fields do. -/
theorem Restores.serialize_eq_iff {d d₁ d₂ : Definition} (h : d.Restores d₁)
    (h' : d₁.Restores d₂) : d₂.serialize = d₁.serialize ↔
      Field.serializeAll d₂.fields = Field.serializeAll d₁.fields := by
  constructor
  · intro hsame
    have hfields := congrArg (fun es => Value.lookup es "fields") hsame
    simp only [lookup_fields] at hfields
    exact Value.map.inj hfields
  · intro hfields
    simp only [serialize, h.handlersValue_eq h', h'.type, h'.version, h'.id, h'.context,
      h'.parent, h'.seed, h'.enrichments, textEntry_nonEmpty?, hfields]

/-- Whatever stands beside the fields is written as before. -/
theorem Restores.get?_serialize {d d₁ d₂ : Definition} (h : d.Restores d₁) (h' : d₁.Restores d₂)
    {key : String} (hkey : key ≠ "fields") : get? key d₂.serialize = get? key d₁.serialize := by
  simp only [serialize, h.handlersValue_eq h', h'.type, h'.version, h'.id, h'.context, h'.parent,
    h'.seed, h'.enrichments, textEntry_nonEmpty?, get?_append, get?_cons, if_neg hkey.symm]

/-- What came back is written as before on the next trip exactly when its fields are settled. -/
theorem Sound.stable_iff {d d₁ : Definition} (h : d.Sound)
    (hd₁ : (Definition.rebuild (.map d.serialize)).result = .ok d₁) :
    (∃ d₂, (Definition.rebuild (.map d₁.serialize)).result = .ok d₂ ∧
      d₂.serialize = d₁.serialize) ↔ ∀ e ∈ d₁.fields, e.2.Settled := by
  have hsound := h.of_rebuild hd₁
  have hrestores := h.restores_of_rebuild hd₁
  have hstable : (∀ e ∈ d₁.fields, e.2.Stable e.1) ↔ ∀ e ∈ d₁.fields, e.2.Settled := by
    refine forall₂_congr fun e he => ?_
    obtain ⟨hregained, hformed⟩ := h.comes_of_rebuild hd₁ e he
    exact hregained.stable_iff hformed
  rw [← hstable]
  constructor
  · rintro ⟨d₂, hd₂, hsame⟩
    obtain ⟨raws, hall, hread⟩ := hsound.exists_allRead_of_rebuild hd₂
    rw [hrestores.serialize_eq_iff (hsound.restores_of_rebuild hd₂)] at hsame
    exact (hall.serializeAll_eq_iff hread).mp hsame
  · intro hall
    obtain ⟨raws, d₂, hrebuilt, hd₂, hread⟩ :=
      hsound.exists_allRead_rebuild fun e he => (hall e he).rereads
    refine ⟨d₂, hd₂, ?_⟩
    rw [hrestores.serialize_eq_iff (hsound.restores_of_rebuild hd₂)]
    exact (hrebuilt.serializeAll_eq_iff hread).mpr hall

/-- Whether the entry of a field is written as before depends on this field alone. -/
theorem Sound.exists_stable_iff {d d₁ d₂ : Definition} (h : d.Sound)
    (hd₁ : (Definition.rebuild (.map d.serialize)).result = .ok d₁)
    (hd₂ : (Definition.rebuild (.map d₁.serialize)).result = .ok d₂) {e : String × Field}
    (he : e ∈ d₁.fields) : ∃ g, get? e.1 d₂.fields = some g ∧
      (g.serialize = e.2.serialize ↔ e.2.Settled) := by
  have hsound := h.of_rebuild hd₁
  obtain ⟨raws, hall, hread⟩ := hsound.exists_allRead_of_rebuild hd₂
  obtain ⟨⟨name, raw⟩, hr, rfl, hraw⟩ := Field.exists_of_forall₂ hall.flip he
  obtain ⟨⟨name', g⟩, hg, rfl, hback⟩ := Field.exists_of_forall₂ hread.flip hr
  obtain ⟨hregained, hformed⟩ := h.comes_of_rebuild hd₁ e he
  refine ⟨g, (get?_eq_some_iff (hsound.of_rebuild hd₂).fields.nodup _ _).mpr hg, ?_⟩
  rw [← hregained.stable_iff hformed, Field.stable_iff_of_read hraw hback]

end Definition

/-- **When the serialized form is stable.**  A definition that is read is rebuilt from its
serialized form exactly when no cascade text in it compares with an integer that is too long.  What
is rebuilt has a serialized form that the next trip does not change exactly when all its fields are
settled.  In any case the metadata and the names of the fields do not change, and the entry of a
field changes exactly when this field is not settled. -/
theorem rebuild_stable_iff {raw : Entries String Value} (hraw : (Value.map raw).WellKeyed)
    {d : Definition} (hd : (Definition.read raw).result = .ok d) :
    ((∃ d₁, (Definition.rebuild (.map d.serialize)).result = .ok d₁) ↔
      ∀ e ∈ d.fields, ¬ e.2.Overlong) ∧
    ∀ d₁, (Definition.rebuild (.map d.serialize)).result = .ok d₁ →
      ((∃ d₂, (Definition.rebuild (.map d₁.serialize)).result = .ok d₂ ∧
        d₂.serialize = d₁.serialize) ↔ ∀ e ∈ d₁.fields, e.2.Settled) ∧
      ∀ d₂, (Definition.rebuild (.map d₁.serialize)).result = .ok d₂ →
        (∀ key, key ≠ "fields" → get? key d₂.serialize = get? key d₁.serialize) ∧
        keys d₂.fields = keys d₁.fields ∧
        ∀ e ∈ d₁.fields, ∃ g, get? e.1 d₂.fields = some g ∧
          (g.serialize = e.2.serialize ↔ e.2.Settled) := by
  have hsound := Definition.sound_of_read hraw hd
  refine ⟨hsound.exists_rebuild_iff, fun d₁ hd₁ => ⟨hsound.stable_iff hd₁, fun d₂ hd₂ => ?_⟩⟩
  have hrestores := hsound.restores_of_rebuild hd₁
  have hrestores' := (hsound.of_rebuild hd₁).restores_of_rebuild hd₂
  exact ⟨fun key hkey => hrestores.get?_serialize hrestores' hkey, hrestores'.names,
    fun e he => hsound.exists_stable_iff hd₁ hd₂ he⟩

/-! ### A definition that is stable -/

namespace Recipe

/-- Metadata, and a text of every kind: plain, with alternatives, a prompt, a path with a type, a
link, and a list of objects. -/
def raw : Entries String Value :=
  [("$type", .text "Recipe"), ("$context", .text "Kitchen"),
    ("title", .text "Name of the dish"),
    ("course", .text "Starter|Main"),
    ("praise", .text "Praise \x7btitle\x7d"),
    ("stock", .text "$pantry.stock (number)"),
    ("cook", .text "->Cook"),
    ("steps", .list [.map [("minutes", .text "How long (number)")]])]

/-- The cook of a recipe. -/
def cook : Cascade where
  operator := .outgoing
  target := "Cook"

/-- The fields with one text for the alternatives. -/
def fields (course : String) : List (String × Field) :=
  [("title", { name := "title", description := "Name of the dish", source := .input }),
    ("course", {
      name := "course"
      description := course
      source := .input
      type := .enum
      enumValues := some ["Starter", "Main"] }),
    ("praise", {
      name := "praise"
      description := "Praise \x7btitle\x7d"
      source := .generate
      generation := some { prompt := "Praise \x7btitle\x7d", placeholders := ["title"] } }),
    ("stock", {
      name := "stock"
      description := "$pantry.stock"
      source := .sync
      type := .number
      syncPath := some "pantry.stock" }),
    ("cook", { name := "cook", description := "Cook", source := .link, cascade := some cook }),
    ("steps", {
      name := "steps"
      description := "Array of steps"
      source := .input
      type := .array
      item := some {
        name := "item"
        description := "item"
        source := .input
        type := .object
        nested := some [("minutes", {
          name := "minutes", description := "How long", source := .input, type := .number })] } })]

def definition : Definition where
  raw := raw
  type := "Recipe"
  id := none
  version := 1
  context := some "Kitchen"
  parent := none
  seed := .null
  enrichments := []
  fields := fields "Starter|Main"
  cascades := [("cook", cook)]
  events := []
  schedules := []
  crons := []
  migrations := []

theorem wellKeyed_raw : (Value.map raw).WellKeyed := by
  refine .map (by decide) ?_
  simp only [raw, List.forall_mem_cons]
  refine ⟨.leaf rfl rfl, .leaf rfl rfl, .leaf rfl rfl, .leaf rfl rfl, .leaf rfl rfl,
    .leaf rfl rfl, .leaf rfl rfl, .list ?_, by simp⟩
  simp only [List.forall_mem_cons]
  refine ⟨.map (by decide) ?_, by simp⟩
  simp only [List.forall_mem_cons]
  exact ⟨.leaf rfl rfl, by simp⟩

/-- The first trip separates the alternatives as an enumeration is written. -/
theorem exists_rebuild : ∃ d₁, (Definition.rebuild (.map definition.serialize)).result = .ok d₁ ∧
    d₁.fields = fields "Starter | Main" := ⟨_, rfl, rfl⟩

theorem canonical_cook : cook.Canonical := by
  refine ⟨word_of_all (by decide) (by decide), ?_, ?_, ?_, ?_, ?_, rfl, rfl, rfl⟩
  · rintro p ⟨⟩
  · rintro r ⟨⟩
  · rintro f ⟨⟩
  · rintro p ⟨⟩
  · rintro - p ⟨⟩

/-- What came back is settled. -/
theorem settled : ∀ e ∈ fields "Starter | Main", e.2.Settled := by
  simp only [fields, List.forall_mem_cons]
  refine ⟨?_, ?_, ?_, ?_, ?_, ?_, by simp⟩
  · exact .marked rfl ⟨rfl, fun _ => ⟨rfl, rfl, rfl⟩⟩
  · exact .marked rfl ⟨rfl, fun _ => ⟨rfl, rfl, rfl⟩⟩
  · refine .marked rfl ⟨rfl, ?_⟩
    rintro _ ⟨⟩
    rfl
  · exact .marked rfl rfl
  · exact .marked rfl (Field.textSettled_of_canonical rfl rfl canonical_cook)
  · refine .list rfl (.object rfl ?_ ?_)
    · rw [Field.exposes_iff_of_object rfl]
      simp only [List.mem_singleton]
      rintro ⟨_, rfl, hexposes⟩
      rw [Field.exposes_iff_of_marked rfl] at hexposes
      exact absurd hexposes (by decide)
    · simp only [List.forall_mem_cons]
      exact ⟨.marked rfl ⟨rfl, fun _ => ⟨rfl, rfl, rfl⟩⟩, by simp⟩

end Recipe

/-- The general statement for a definition with texts of every kind. -/
theorem rebuild_stable_iff_recipe : (Value.map Recipe.raw).WellKeyed ∧
    (Definition.read Recipe.raw).result = .ok Recipe.definition ∧
    ∃ d₁ d₂, (Definition.rebuild (.map Recipe.definition.serialize)).result = .ok d₁ ∧
      (Definition.rebuild (.map d₁.serialize)).result = .ok d₂ ∧
      d₂.serialize = d₁.serialize := by
  have hread : (Definition.read Recipe.raw).result = .ok Recipe.definition := rfl
  obtain ⟨d₁, hd₁, hfields⟩ := Recipe.exists_rebuild
  obtain ⟨hstable, -⟩ := (rebuild_stable_iff Recipe.wellKeyed_raw hread).2 d₁ hd₁
  obtain ⟨d₂, hd₂, hsame⟩ := hstable.mpr (hfields ▸ Recipe.settled)
  exact ⟨Recipe.wellKeyed_raw, hread, d₁, d₂, hd₁, hd₂, hsame⟩

/-! ### A definition that drifts -/

namespace Suffixes

/-- An input with three type suffixes. -/
def raw : Entries String Value :=
  [("$type", .text "Survey"), ("answer", .text "n (number) (date) (boolean)")]

/-- The survey with the text that is left of its input. -/
def survey (raw : Entries String Value) (left : String) : Definition where
  raw := raw
  type := "Survey"
  id := none
  version := 1
  context := none
  parent := none
  seed := .null
  enrichments := []
  fields := [("answer", {
    name := "answer", description := left, source := .input, type := .boolean })]
  cascades := []
  events := []
  schedules := []
  crons := []
  migrations := []

/-- The mapping that the survey is rebuilt from. -/
def marked (text : String) : Entries String Value :=
  [("$type", .text "Survey"), ("$version", .int 1),
    ("answer", .map [("$input", .text text), ("type", .text "boolean")])]

theorem wellKeyed_raw : (Value.map raw).WellKeyed := by
  refine .map (by decide) ?_
  simp only [raw, List.forall_mem_cons]
  exact ⟨.leaf rfl rfl, .leaf rfl rfl, by simp⟩

end Suffixes

/-- Every trip takes one more type suffix off. -/
theorem rebuild_unstable_suffixes : (Value.map Suffixes.raw).WellKeyed ∧
    (Definition.read Suffixes.raw).result =
      .ok (Suffixes.survey Suffixes.raw "n (number) (date)") ∧
    (Definition.rebuild (.map
        (Suffixes.survey Suffixes.raw "n (number) (date)").serialize)).result =
      .ok (Suffixes.survey (Suffixes.marked "n (number) (date)") "n (number)") ∧
    (Definition.rebuild (.map
        (Suffixes.survey (Suffixes.marked "n (number) (date)") "n (number)").serialize)).result =
      .ok (Suffixes.survey (Suffixes.marked "n (number)") "n") ∧
    (Suffixes.survey (Suffixes.marked "n (number)") "n").serialize ≠
      (Suffixes.survey (Suffixes.marked "n (number) (date)") "n (number)").serialize := by
  refine ⟨Suffixes.wellKeyed_raw, rfl, rfl, rfl, fun hsame => ?_⟩
  have hfields := congrArg (fun es => Value.lookup es "fields") hsame
  simp only [Definition.lookup_fields] at hfields
  have hentry := congrArg Prod.snd (List.cons.inj (Value.map.inj hfields)).1
  exact absurd (Field.literal_eq_of_serialize hentry) (by decide)

end Entity
