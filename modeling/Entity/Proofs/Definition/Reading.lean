import Entity.Definition.Reading
import Entity.Proofs.Field.Payload

/-!
# What reading a definition guarantees

Main statements: what routing an entry can do; it keeps the fields and the migrations well formed,
and so does routing all of them; a definition that is read has a type name, a version of at least 1,
distinct names of fields that are formed, and distinct targets of migrations, all its fields have
been read and carry what their sources need, and each of its parts is read from its own entries.
-/

namespace Entity

/-! ## Routing -/

/-- Distinct names that are not reserved, each with a formed field. -/
structure FormedFields (fields : Entries String Field) : Prop where
  nodup : (Entries.keys fields).Nodup
  unreserved : ∀ e ∈ fields, isReserved e.1 = false
  formed : ∀ e ∈ fields, e.2.Formed

/-- The parts that entries have been routed to so far. -/
structure Routed.Sound (r : Routed) : Prop where
  fields : FormedFields r.fields
  migrations : (Entries.keys r.migrations).Nodup

theorem FormedFields.put {fields : Entries String Field} (h : FormedFields fields) {key : String}
    (hkey : isReserved key = false) {f : Field} (hf : f.Formed) :
    FormedFields (Entries.put key f fields) := by
  refine ⟨Entries.nodup_keys_put h.nodup key f, ?_, ?_⟩
  · intro e he
    rcases Entries.eq_or_mem_of_mem_put he with rfl | he
    · exact hkey
    · exact h.unreserved e he
  · intro e he
    rcases Entries.eq_or_mem_of_mem_put he with rfl | he
    · exact hf
    · exact h.formed e he

theorem Routed.exists_of_addField {r r' : Routed} {key : String} {v : Value}
    (hadd : (r.addField key v).result = .ok r') : ∃ f, (Field.read key v).result = .ok f ∧
      r' = { r with fields := Entries.put key f r.fields } := by
  simp only [Routed.addField, Outcome.result_bind, bind_eq_ok] at hadd
  obtain ⟨f, hf, hadd⟩ := hadd
  cases hadd
  exact ⟨f, hf, rfl⟩

/-- Routing an entry leaves the fields alone or puts the field that is read from its value, and it
leaves the migrations alone or puts one. -/
theorem Routed.add_cases {r r' : Routed} {type : String} {version : Int} {key : String} {v : Value}
    (hadd : (r.add type version key v).result = .ok r') :
    (r'.fields = r.fields ∨ isReserved key = false ∧ ∃ f, (Field.read key v).result = .ok f ∧
      r'.fields = Entries.put key f r.fields) ∧
    (r'.migrations = r.migrations ∨ ∃ target f,
      r'.migrations = Entries.put target f r.migrations) := by
  unfold Routed.add at hadd
  split at hadd
  · cases hadd
    exact ⟨Or.inl rfl, Or.inl rfl⟩
  · rename_i hkey
    have hkey : isReserved key = false := by simpa using hkey
    split at hadd
    · split at hadd
      · simp only [Outcome.result_bind, bind_eq_ok] at hadd
        obtain ⟨target, -, hadd⟩ := hadd
        split at hadd
        · cases hadd
        · cases hadd
          exact ⟨Or.inl rfl, Or.inr ⟨target, _, rfl⟩⟩
      -- events, schedules and crons are neither
      · cases hadd
        exact ⟨Or.inl rfl, Or.inl rfl⟩
      · cases hadd
        exact ⟨Or.inl rfl, Or.inl rfl⟩
      · cases hadd
        exact ⟨Or.inl rfl, Or.inl rfl⟩
      · obtain ⟨f, hf, rfl⟩ := Routed.exists_of_addField hadd
        exact ⟨Or.inr ⟨hkey, f, hf, rfl⟩, Or.inl rfl⟩
    · obtain ⟨f, hf, rfl⟩ := Routed.exists_of_addField hadd
      exact ⟨Or.inr ⟨hkey, f, hf, rfl⟩, Or.inl rfl⟩

/-- Routing an entry keeps the parts well formed. -/
theorem Routed.Sound.add {r r' : Routed} (h : r.Sound) {type : String} {version : Int}
    {key : String} {v : Value} (hv : v.WellKeyed)
    (hadd : (r.add type version key v).result = .ok r') : r'.Sound := by
  obtain ⟨hfields, hmigrations⟩ := Routed.add_cases hadd
  constructor
  · rcases hfields with hsame | ⟨hkey, f, hf, hput⟩
    · rw [hsame]
      exact h.fields
    · rw [hput]
      exact h.fields.put hkey (formed_of_read hv hf)
  · rcases hmigrations with hsame | ⟨target, f, hput⟩
    · rw [hsame]
      exact h.migrations
    · rw [hput]
      exact Entries.nodup_keys_put h.migrations _ _

/-- Routing entries in order keeps the parts well formed. -/
theorem Routed.Sound.addAll {r r' : Routed} (h : r.Sound) {type : String} {version : Int}
    {entries : Entries String Value} (hv : ∀ e ∈ entries, e.2.WellKeyed)
    (hadd : (r.addAll type version entries).result = .ok r') : r'.Sound := by
  induction entries generalizing r with
  | nil =>
      cases hadd
      exact h
  | cons e entries ih =>
      simp only [Routed.addAll, Outcome.result_bind, bind_eq_ok] at hadd
      obtain ⟨r₁, hr₁, hadd⟩ := hadd
      exact ih (h.add (hv e (by simp)) hr₁) (fun e' he' => hv e' (by simp [he'])) hadd

/-- Every routed field was there before or was read from the entry of its name. -/
theorem Routed.mem_fields_of_addAll {r r' : Routed} {type : String} {version : Int}
    {entries : Entries String Value} (hadd : (r.addAll type version entries).result = .ok r')
    {e : String × Field} (he : e ∈ r'.fields) :
    e ∈ r.fields ∨ ∃ v, (e.1, v) ∈ entries ∧ (Field.read e.1 v).result = .ok e.2 := by
  induction entries generalizing r with
  | nil =>
      cases hadd
      exact Or.inl he
  | cons entry entries ih =>
      simp only [Routed.addAll, Outcome.result_bind, bind_eq_ok] at hadd
      obtain ⟨r₁, hr₁, hadd⟩ := hadd
      -- a field that was there after the first entry was there before or is its field
      rcases ih hadd with hmem | hread
      · rcases (Routed.add_cases hr₁).1 with hsame | ⟨-, f, hf, hput⟩
        · rw [hsame] at hmem
          exact Or.inl hmem
        · rw [hput] at hmem
          rcases Entries.eq_or_mem_of_mem_put hmem with rfl | hmem
          · exact Or.inr ⟨entry.2, by simp, hf⟩
          · exact Or.inl hmem
      · obtain ⟨v, hv, hread⟩ := hread
        exact Or.inr ⟨v, by simp [hv], hread⟩

/-! ### Handlers -/

/-- The same handlers have been routed. -/
structure Routed.SameHandlers (r r' : Routed) : Prop where
  events : r'.events = r.events
  schedules : r'.schedules = r.schedules
  crons : r'.crons = r.crons
  migrations : r'.migrations = r.migrations

theorem Routed.SameHandlers.refl (r : Routed) : r.SameHandlers r := ⟨rfl, rfl, rfl, rfl⟩

theorem Routed.SameHandlers.trans {r r' r'' : Routed} (h : r.SameHandlers r')
    (h' : r'.SameHandlers r'') : r.SameHandlers r'' :=
  ⟨h'.events.trans h.events, h'.schedules.trans h.schedules, h'.crons.trans h.crons,
    h'.migrations.trans h.migrations⟩

/-- The entry is passed over, or its value is no function. -/
def NoHandler (e : String × Value) : Prop := isReserved e.1 = true ∨ ∀ f, e.2 ≠ .function f

/-- A value that is no function is routed to no handler. -/
theorem Routed.sameHandlers_of_add {r r' : Routed} {type : String} {version : Int}
    {e : String × Value} (he : NoHandler e)
    (hadd : (r.add type version e.1 e.2).result = .ok r') : r.SameHandlers r' := by
  unfold Routed.add at hadd
  split at hadd
  · cases hadd
    exact .refl _
  · rename_i hkey
    split at hadd
    · rename_i f hf
      exact absurd hf (he.resolve_left hkey f)
    · obtain ⟨f, -, rfl⟩ := Routed.exists_of_addField hadd
      exact ⟨rfl, rfl, rfl, rfl⟩

/-- Entries without functions are routed to no handler. -/
theorem Routed.sameHandlers_of_addAll {r r' : Routed} {type : String} {version : Int}
    {es : Entries String Value} (hes : ∀ e ∈ es, NoHandler e)
    (hadd : (r.addAll type version es).result = .ok r') : r.SameHandlers r' := by
  induction es generalizing r with
  | nil =>
      cases hadd
      exact .refl _
  | cons e es ih =>
      simp only [Routed.addAll, Outcome.result_bind, bind_eq_ok] at hadd
      obtain ⟨r₁, hr₁, hadd⟩ := hadd
      exact (Routed.sameHandlers_of_add (hes e (by simp)) hr₁).trans
        (ih (fun e' he' => hes e' (by simp [he'])) hadd)

/-! ## Definitions -/

/-- What reading guarantees of a definition. -/
structure Definition.Sound (d : Definition) : Prop where
  type : d.type ≠ ""
  version : 1 ≤ d.version
  fields : FormedFields d.fields
  migrations : (Entries.keys d.migrations).Nodup

theorem one_le_of_readVersion {type : String} {v : Value} {version : Int}
    (h : readVersion type v = .ok version) : 1 ≤ version := by
  unfold readVersion at h
  split at h
  · cases h
    decide
  · split at h
    · cases h
    · cases h
      omega
  · cases h

/-- What each part of a definition is read from: metadata from its reserved key, and everything else
from the entries that were routed. -/
structure Definition.ReadFrom (d : Definition) (raw : Entries String Value) (r : Routed) :
    Prop where
  origin : d.raw = raw
  type : Entries.get? "$type" raw = some (.text d.type)
  named : d.type ≠ ""
  version : readVersion d.type (Value.lookup raw "$version") = .ok d.version
  parent : d.parent = (readParent (Value.lookup raw "$extends")).1
  context : readContext (Value.lookup raw "$context") (readParent (Value.lookup raw "$extends")).2 =
    .ok d.context
  id : d.id = match Value.lookup raw "$id" with
    | .null => none
    | v => some v.shown
  seed : d.seed = Value.lookup raw "$seed"
  enrichments : readEnrichments d.type (Value.lookup raw "$enrich") = .ok d.enrichments
  routed : (Routed.addAll d.type d.version {} raw).result = .ok r
  fields : d.fields = r.fields
  cascades : d.cascades = cascadesOf d.fields
  events : d.events = r.events
  schedules : d.schedules = r.schedules
  crons : d.crons = r.crons
  migrations : d.migrations = r.migrations

theorem Definition.exists_readFrom {raw : Entries String Value} {d : Definition}
    (h : (Definition.read raw).result = .ok d) : ∃ r, d.ReadFrom raw r := by
  simp only [Definition.read] at h
  split at h
  · split at h
    · cases h
    · rename_i s htype hs
      simp only [Outcome.result_bind, Outcome.result_pure, Outcome.result_lift, bind_eq_ok] at h
      obtain ⟨_, ⟨⟩, version, hversion, routed, hrouted, -, -, enrichments, henrichments, context,
        hcontext, h⟩ := h
      cases h
      exact ⟨routed, rfl, htype, by simpa using hs, hversion, rfl, hcontext, rfl, rfl, henrichments,
        hrouted, rfl, rfl, rfl, rfl, rfl, rfl⟩
  · cases h

/-- A definition without functions among its entries has no handlers. -/
theorem Definition.ReadFrom.sameHandlers {d : Definition} {raw : Entries String Value} {r : Routed}
    (h : d.ReadFrom raw r) (hraw : ∀ e ∈ raw, NoHandler e) :
    d.events = [] ∧ d.schedules = [] ∧ d.crons = [] ∧ d.migrations = [] := by
  have hsame := Routed.sameHandlers_of_addAll hraw h.routed
  exact ⟨h.events.trans hsame.events, h.schedules.trans hsame.schedules,
    h.crons.trans hsame.crons, h.migrations.trans hsame.migrations⟩

/-- Every field of a definition that is read has been read from the entry of its name. -/
theorem Definition.exists_read_of_mem_fields {raw : Entries String Value} {d : Definition}
    (h : (Definition.read raw).result = .ok d) {e : String × Field} (he : e ∈ d.fields) :
    ∃ v, (e.1, v) ∈ raw ∧ (Field.read e.1 v).result = .ok e.2 := by
  obtain ⟨r, hr⟩ := Definition.exists_readFrom h
  rw [hr.fields] at he
  exact (Routed.mem_fields_of_addAll hr.routed he).resolve_left (by simp)

/-- Every field of a definition that is read carries what its source needs. -/
theorem Definition.throughout_of_read {raw : Entries String Value} {d : Definition}
    (h : (Definition.read raw).result = .ok d) :
    ∀ e ∈ d.fields, e.2.Throughout (Field.Carries fun _ => True) := by
  intro e he
  obtain ⟨v, -, hv⟩ := Definition.exists_read_of_mem_fields h he
  have hasks : Asks (fun _ => True) fun _ => True := ⟨trivial, by simp, by simp⟩
  exact Entity.throughout_of_read hasks v.keyed_true trivial hv

/-- A definition that is read is sound. -/
theorem Definition.sound_of_read {raw : Entries String Value} (hraw : (Value.map raw).WellKeyed)
    {d : Definition} (h : (Definition.read raw).result = .ok d) : d.Sound := by
  have hvalues : ∀ e ∈ raw, e.2.WellKeyed := by
    cases hraw with
    | leaf hmap => simp [Value.map?] at hmap
    | map _ hvalues => exact hvalues
  obtain ⟨r, hr⟩ := Definition.exists_readFrom h
  have hempty : Routed.Sound {} :=
    ⟨⟨List.nodup_nil, by simp, by simp⟩, List.nodup_nil⟩
  have hsound := hempty.addAll hvalues hr.routed
  refine ⟨hr.named, one_le_of_readVersion hr.version, ?_, ?_⟩
  · rw [hr.fields]
    exact hsound.fields
  · rw [hr.migrations]
    exact hsound.migrations

end Entity
