import Entity.Field.Reading
import Entity.Proofs.Entries
import Entity.Proofs.Outcome

/-!
# The form of fields that are read

A field that is read from a value is one of few forms: nested fields stand in input objects without
options, an element has the source of its list, and options have keys without a meaning of their
own.  Main statement: what is read from a value whose mappings hold every key once is formed.
-/

namespace Entity

/-! ## Values -/

/-- Every mapping in the value holds a key once, as mappings that are built by writing do. -/
inductive Value.WellKeyed : Value → Prop
  | leaf {v : Value} (hmap : v.map? = none) (hitems : v.items? = none) : WellKeyed v
  | list {items : List Value} (h : ∀ v ∈ items, WellKeyed v) : WellKeyed (.list items)
  | tuple {items : List Value} (h : ∀ v ∈ items, WellKeyed v) : WellKeyed (.tuple items)
  | map {entries : Entries String Value} (hkeys : (Entries.keys entries).Nodup)
      (h : ∀ e ∈ entries, WellKeyed e.2) : WellKeyed (.map entries)

/-- A property holds of every value if it holds of values without members, and of lists and mappings
whose members all have it. -/
@[elab_as_elim]
theorem Value.induct_members {motive : Value → Prop}
    (leaf : ∀ v : Value, v.map? = none → v.items? = none → motive v)
    (list : ∀ items : List Value, (∀ v ∈ items, motive v) → motive (.list items))
    (tuple : ∀ items : List Value, (∀ v ∈ items, motive v) → motive (.tuple items))
    (map : ∀ entries : Entries String Value, (∀ e ∈ entries, motive e.2) → motive (.map entries))
    (v : Value) : motive v := by
  cases v with
  | list items =>
      refine list items fun v hv => ?_
      have hsize := List.sizeOf_lt_of_mem hv
      exact Value.induct_members leaf list tuple map v
  | tuple items =>
      refine tuple items fun v hv => ?_
      have hsize := List.sizeOf_lt_of_mem hv
      exact Value.induct_members leaf list tuple map v
  | map entries =>
      refine map entries fun e he => ?_
      have hsize := List.sizeOf_lt_of_mem he
      obtain ⟨key, v⟩ := e
      exact Value.induct_members leaf list tuple map v
  | _ => exact leaf _ rfl rfl
termination_by sizeOf v
decreasing_by all_goals simp_all; omega

/-! ## Options -/

/-- Distinct keys that have no meaning beside a marker. -/
structure FreeOptions (options : Entries String Value) : Prop where
  nodup : (Entries.keys options).Nodup
  notMarker : ∀ k ∈ Entries.keys options, Source.ofMarker? k = none
  notInterpreted : ∀ k ∈ Entries.keys options, k ∉ interpretedKeys

theorem FreeOptions.nil : FreeOptions [] :=
  ⟨List.nodup_nil, by simp [Entries.keys], by simp [Entries.keys]⟩

/-- What is left beside a marker is free. -/
theorem freeOptions_optionsOf {entries : Entries String Value}
    (h : (Entries.keys entries).Nodup) : FreeOptions (optionsOf entries) := by
  have hmem : ∀ k ∈ Entries.keys (optionsOf entries),
      Source.ofMarker? k = none ∧ k ∉ interpretedKeys := by
    intro k hk
    obtain ⟨e, he, rfl⟩ := List.mem_map.mp hk
    have hkeep := (List.mem_filter.mp he).2
    simpa using hkeep
  exact ⟨h.sublist (List.filter_sublist.map Prod.fst), fun k hk => (hmem k hk).1,
    fun k hk => (hmem k hk).2⟩

/-- Free options are all that is left of them. -/
theorem FreeOptions.optionsOf_eq {options : Entries String Value} (h : FreeOptions options) :
    optionsOf options = options := by
  refine List.filter_eq_self.mpr fun e he => ?_
  have hk : e.1 ∈ Entries.keys options := List.mem_map_of_mem he
  simpa using ⟨h.notMarker _ hk, h.notInterpreted _ hk⟩

/-! ## Formed fields -/

/-- An aggregate without a function has a path that reads as no aggregate. -/
def Aggregate.Resolved (a : Aggregate) : Prop :=
  a.function = none → aggregateParts? a.path = none

/-- A field as reading makes it. -/
inductive Field.Formed : Field → Prop
  | intro {f : Field} (options : FreeOptions f.options)
      (object : ∀ fs, f.nested = some fs → f.source = .input ∧ f.type = .object ∧ f.options = [])
      (names : ∀ fs, f.nested = some fs → ∀ e ∈ fs, isReserved e.1 = false)
      (members : ∀ fs, f.nested = some fs → ∀ e ∈ fs, Formed e.2)
      (source : ∀ i, f.item = some i → i.source = f.source)
      (item : ∀ i, f.item = some i → Formed i)
      (aggregate : f.source = .aggregate →
        ∃ a, f.cascade = none ∧ f.aggregate = some a ∧ a.Resolved) : Formed f

namespace Field.Formed

variable {f i : Field} {fs : List (String × Field)}

theorem freeOptions (h : f.Formed) : FreeOptions f.options := by
  cases h
  assumption

theorem object (h : f.Formed) (hn : f.nested = some fs) :
    f.source = .input ∧ f.type = .object ∧ f.options = [] := by
  obtain ⟨-, object, -, -, -, -, -⟩ := h
  exact object fs hn

theorem unreserved (h : f.Formed) (hn : f.nested = some fs) :
    ∀ e ∈ fs, isReserved e.1 = false := by
  obtain ⟨-, -, names, -, -, -, -⟩ := h
  exact names fs hn

theorem members (h : f.Formed) (hn : f.nested = some fs) : ∀ e ∈ fs, e.2.Formed := by
  obtain ⟨-, -, -, members, -, -, -⟩ := h
  exact members fs hn

theorem item (h : f.Formed) (hi : f.item = some i) : i.Formed := by
  obtain ⟨-, -, -, -, -, item, -⟩ := h
  exact item i hi

theorem source_item (h : f.Formed) (hi : f.item = some i) : i.source = f.source := by
  obtain ⟨-, -, -, -, source, -, -⟩ := h
  exact source i hi

theorem aggregate (h : f.Formed) (hs : f.source = .aggregate) :
    ∃ a, f.cascade = none ∧ f.aggregate = some a ∧ a.Resolved := by
  obtain ⟨-, -, -, -, -, -, aggregate⟩ := h
  exact aggregate hs

end Field.Formed

/-- A field without members, options and aggregate. -/
structure Field.Flat (f : Field) : Prop where
  nested : f.nested = none
  item : f.item = none
  options : f.options = []
  source : f.source ≠ .aggregate

theorem Field.Flat.formed {f : Field} (h : f.Flat) : f.Formed := by
  refine .intro (h.options ▸ .nil) ?_ ?_ ?_ ?_ ?_ fun ha => absurd ha h.source
  · simp [h.nested]
  · simp [h.nested]
  · simp [h.nested]
  · simp [h.item]
  · simp [h.item]

/-- A formed field without nested fields may be given free options, another shape and other texts.
-/
theorem Field.Formed.marked {f g : Field} (h : f.Formed) (hnested : f.nested = none)
    (hoptions : FreeOptions g.options) (hn : g.nested = f.nested) (hi : g.item = f.item)
    (hs : g.source = f.source) (hc : g.cascade = f.cascade) (ha : g.aggregate = f.aggregate) :
    g.Formed := by
  obtain ⟨-, -, -, -, source, item, aggregate⟩ := h
  rw [hnested] at hn
  refine .intro hoptions ?_ ?_ ?_ ?_ ?_ ?_
  · simp [hn]
  · simp [hn]
  · simp [hn]
  · rwa [hi, hs]
  · rwa [hi]
  · rwa [hs, hc, ha]

/-! ## Issues -/

@[simp] theorem Field.result_degraded (f : Field) (issue : String) :
    (f.degraded issue).result = .ok { f with issues := f.issues ++ [issue] } := by
  simp [Field.degraded, Except.map]

@[simp] theorem Field.result_degradedBy (f : Field) (issues : List String) :
    (f.degradedBy issues).result = .ok { f with issues := f.issues ++ issues } := by
  induction issues generalizing f with
  | nil =>
      cases f
      simp [Field.degradedBy]
  | cons issue issues ih => simp [Field.degradedBy, Except.bind, ih]

/-! ## Texts -/

theorem result_read (text : String) : (Cascade.read text).result =
    (Cascade.read? text).map fun c => ((c.map Cascade.description).getD text, c) := by
  simp only [Cascade.read, Outcome.result_bind, Outcome.result_lift, Outcome.result_warnAll,
    Outcome.result_pure]
  cases Cascade.read? text <;> rfl

/-- A cascade that is read from a text has no function of its own. -/
theorem selector_of_read? {text : String} {c : Cascade} (h : Cascade.read? text = .ok (some c)) :
    c.selector = none := by
  simp only [Cascade.read?] at h
  split at h
  · cases h
  · obtain ⟨target, -, h⟩ := bind_eq_ok.mp h
    cases h
    rfl

theorem source_ofInputText (name text : String) :
    (Field.ofInputText name text).source = .input := by
  unfold Field.ofInputText
  split
  · rfl
  · split <;> rfl

theorem cascade_ofInputText (name text : String) :
    (Field.ofInputText name text).cascade = none := by
  unfold Field.ofInputText
  split
  · rfl
  · split <;> rfl

/-- A text is read as the cascade that it denotes, or else without one. -/
theorem exists_result_ofText {text : String} {c : Option Cascade} (h : Cascade.read? text = .ok c)
    (name : String) : ∃ g, (Field.ofText name text).result = .ok g ∧ g.cascade = c ∧
      (c.isSome → g.source = .link ∧ g.type = .string) := by
  simp only [Field.ofText, Outcome.result_bind, result_read, h, Except.map, Except.bind]
  cases c with
  | some c => exact ⟨_, rfl, rfl, fun _ => ⟨rfl, rfl⟩⟩
  | none =>
      simp only
      split
      · exact ⟨_, rfl, rfl, by simp⟩
      · split
        · exact ⟨_, rfl, rfl, by simp⟩
        · exact ⟨_, rfl, cascade_ofInputText name text, by simp⟩

theorem result_ofText_error {text : String} {e : Failure} (h : Cascade.read? text = .error e)
    (name : String) : (Field.ofText name text).result = .error e := by
  simp only [Field.ofText, Outcome.result_bind, result_read, h]
  rfl

/-- An input is read from a text exactly when the text can be read as a cascade text. -/
theorem result_ofInput (name text : String) :
    (Field.ofInput name (.text text)).result = (Cascade.read? text).map fun c =>
      match c with
      | some c => { name, description := c.description, source := .input, cascade := some c }
      | none => .ofInputText name text := by
  simp only [Field.ofInput, Outcome.result_bind, result_read]
  rcases Cascade.read? text with e | - | c <;> rfl

theorem flat_ofInputText (name text : String) : (Field.ofInputText name text).Flat := by
  unfold Field.ofInputText
  split
  · exact ⟨rfl, rfl, rfl, by simp⟩
  · split <;> exact ⟨rfl, rfl, rfl, by simp⟩

theorem flat_ofText {name text : String} {f : Field}
    (h : (Field.ofText name text).result = .ok f) : f.Flat := by
  simp only [Field.ofText, Outcome.result_bind, bind_eq_ok] at h
  obtain ⟨⟨description, cascade⟩, -, h⟩ := h
  cases cascade with
  | some c =>
      cases h
      exact ⟨rfl, rfl, rfl, by simp⟩
  | none =>
      simp only at h
      split at h
      · cases h
        exact ⟨rfl, rfl, rfl, by simp⟩
      · split at h
        · cases h
          exact ⟨rfl, rfl, rfl, by simp⟩
        · cases h
          exact flat_ofInputText name text

/-! ## Lists -/

/-- A list whose element is formed is formed. -/
theorem Field.Formed.ofElement {item : Field} (h : item.Formed) (name : String) (shared : Bool) :
    (Field.ofElement name shared item).Formed := by
  refine .intro .nil ?_ ?_ ?_ ?_ ?_ ?_
  · simp [Field.ofElement]
  · simp [Field.ofElement]
  · simp [Field.ofElement]
  · simp [Field.ofElement]
  · simpa [Field.ofElement] using h
  · intro ha
    obtain ⟨-, -, -, -, -, -, aggregate⟩ := h
    obtain ⟨a, hc, ha, hr⟩ := aggregate ha
    exact ⟨a, by simp [Field.ofElement, hc], ha, hr⟩

/-! ## Markers -/

/-- What a marker makes of its value before the keys beside it: a formed field without nested
fields. -/
structure Field.Marked (f : Field) : Prop where
  formed : f.Formed
  nested : f.nested = none

theorem Field.Flat.marked {f : Field} (h : f.Flat) : f.Marked := ⟨h.formed, h.nested⟩

theorem marked_ofInput {name : String} {body : Value} {f : Field}
    (h : (Field.ofInput name body).result = .ok f) : f.Marked := by
  unfold Field.ofInput at h
  split at h
  · simp only [Outcome.result_bind, bind_eq_ok] at h
    obtain ⟨⟨description, cascade⟩, -, h⟩ := h
    cases cascade with
    | some c =>
        cases h
        exact Field.Flat.marked ⟨rfl, rfl, rfl, by simp⟩
    | none =>
        cases h
        exact (flat_ofInputText name _).marked
  · cases h
    exact Field.Flat.marked ⟨rfl, rfl, rfl, by simp⟩

theorem marked_ofGeneratedItem {item : Field} (h : item.Marked) (hs : item.source = .generate)
    (name : String) : (Field.ofGeneratedItem name item).Marked := by
  obtain ⟨options, -, -, -, -, -, -⟩ := h.formed
  refine ⟨.intro options ?_ ?_ ?_ ?_ ?_ ?_, h.nested⟩
  · simp [Field.ofGeneratedItem, h.nested]
  · simp [Field.ofGeneratedItem, h.nested]
  · simp [Field.ofGeneratedItem, h.nested]
  · simp [Field.ofGeneratedItem]
  · simpa [Field.ofGeneratedItem] using h.formed
  · simp [Field.ofGeneratedItem, hs]

/-- A generated field, whatever lists its value stands in. -/
theorem marked_ofGenerate {name : String} {schema model body : Value} {f : Field}
    (h : Field.ofGenerate name schema model body = .ok f) : f.Marked ∧ f.source = .generate := by
  fun_induction Field.ofGenerate name schema model body generalizing f with
  | case1 name entries =>
      obtain ⟨model, -, h⟩ := bind_eq_ok.mp h
      cases h
      exact ⟨Field.Flat.marked ⟨rfl, rfl, rfl, by simp⟩, rfl⟩
  | case2 name element ih =>
      obtain ⟨item, hitem, rfl⟩ := map_eq_ok.mp h
      obtain ⟨hm, hs⟩ := ih hitem
      exact ⟨marked_ofGeneratedItem hm hs name, hs⟩
  | case3 name element ih =>
      obtain ⟨item, hitem, rfl⟩ := map_eq_ok.mp h
      obtain ⟨hm, hs⟩ := ih hitem
      exact ⟨marked_ofGeneratedItem hm hs name, hs⟩
  | case4 name body =>
      cases h
      exact ⟨Field.Flat.marked ⟨rfl, rfl, rfl, by simp [Field.ofGeneratedText]⟩, rfl⟩

theorem marked_ofCompute {name : String} {body : Value} {f : Field}
    (h : (Field.ofCompute name body).result = .ok f) : f.Marked := by
  unfold Field.ofCompute at h
  split at h
  · cases h
    exact Field.Flat.marked ⟨rfl, rfl, rfl, by simp⟩
  · rw [Field.result_degraded] at h
    cases h
    exact Field.Flat.marked ⟨rfl, rfl, rfl, by simp⟩

theorem formed_of_aggregate {f : Field} {a : Aggregate} (hn : f.nested = none)
    (hi : f.item = none) (ho : f.options = []) (hc : f.cascade = none)
    (ha : f.aggregate = some a) (hr : a.Resolved) : f.Formed := by
  refine .intro (ho ▸ .nil) ?_ ?_ ?_ ?_ ?_ fun _ => ⟨a, hc, ha, hr⟩
  · simp [hn]
  · simp [hn]
  · simp [hn]
  · simp [hi]
  · simp [hi]

theorem marked_ofAggregate (name : String) {a : Aggregate} (h : a.Resolved) :
    (Field.ofAggregate name a).Marked :=
  ⟨formed_of_aggregate rfl rfl rfl rfl rfl h, rfl⟩

theorem foldedStart?_eq_some {name cs w rest : List Char}
    (h : foldedStart? name cs = some (w, rest)) :
    w = cs.take name.length ∧ w.map foldLetter = name := by
  unfold foldedStart? at h
  split at h
  · rename_i hname
    cases h
    exact ⟨rfl, hname.2⟩
  · cases h

theorem marked_ofAggregateText {name text : String} {f : Field}
    (h : (Field.ofAggregateText name text).result = .ok f) : f.Marked := by
  unfold Field.ofAggregateText at h
  split at h
  · rename_i hnone
    rw [Field.result_degraded] at h
    cases h
    exact ⟨formed_of_aggregate rfl rfl rfl rfl rfl fun _ => hnone, rfl⟩
  · split at h
    · cases h
      exact marked_ofAggregate name (by simp [Aggregate.Resolved])
    · cases h

theorem Field.Marked.withSelector {f : Field} (h : f.Marked) (hs : f.source ≠ .aggregate)
    (selector : Option Computation) : (f.withSelector selector).Marked := by
  cases selector with
  | none => exact h
  | some s =>
      obtain ⟨⟨options, object, names, members, source, item, -⟩, hn⟩ := h
      exact ⟨.intro options object names members source item fun ha => absurd ha hs, hn⟩

/-- The text of the link that a value stands for: it begins with an arrow if it has no operator. -/
theorem result_linkText (body : Value) : (linkText body).result =
    (Cascade.read? (Text.trimmed body.shown)).map fun c =>
      if c.isSome then Text.trimmed body.shown else "->" ++ Text.trimmed body.shown := by
  simp only [linkText, Cascade.isCascade, Outcome.result_bind, result_read, Outcome.result_pure]
  rcases Cascade.read? (Text.trimmed body.shown) with e | - | c <;> rfl

/-- A link is the field of its text, or a list of it, with what selects its instances; a text
without a cascade leaves an issue. -/
theorem exists_of_ofLink {name : String} {body selector : Value} {f : Field}
    (h : (Field.ofLink name body selector).result = .ok f) :
    ∃ text g, ((Field.ofText name text).result = .ok g ∨
        ∃ item, (Field.ofText "item" text).result = .ok item ∧ g = .ofElement name true item) ∧
      (g.cascade.isSome ∧ f = g.withSelector (Computation.ofValue? selector) ∨
        ∃ issue, f = { name, description := text, source := .link, issues := [issue] }) := by
  have hend : ∀ (g : Field) (text : String), (if g.cascade.isNone then
        Field.degraded { name, description := text, source := .link }
          ("unreadable link " ++ Text.quoted text)
        else pure (g.withSelector (Computation.ofValue? selector))).result = .ok f →
      g.cascade.isSome ∧ f = g.withSelector (Computation.ofValue? selector) ∨
        ∃ issue, f = { name, description := text, source := .link, issues := [issue] } := by
    intro g text h
    split at h
    · rw [Field.result_degraded] at h
      cases h
      exact Or.inr ⟨_, rfl⟩
    · rename_i hsome
      cases h
      exact Or.inl ⟨by simpa [Option.isSome_iff_ne_none] using hsome, rfl⟩
  simp only [Field.ofLink, Outcome.result_bind, bind_eq_ok] at h
  obtain ⟨text, -, h⟩ := h
  split at h
  · simp only [Outcome.result_bind, Outcome.result_map, bind_eq_ok, map_eq_ok] at h
    obtain ⟨g, ⟨item, hitem, rfl⟩, h⟩ := h
    exact ⟨text, _, Or.inr ⟨item, hitem, rfl⟩, hend _ text h⟩
  · rw [Outcome.result_bind, bind_eq_ok] at h
    obtain ⟨g, hg, h⟩ := h
    exact ⟨text, g, Or.inl hg, hend g text h⟩

theorem marked_ofLink {name : String} {body selector : Value} {f : Field}
    (h : (Field.ofLink name body selector).result = .ok f) : f.Marked := by
  obtain ⟨text, g, hg, hf⟩ := exists_of_ofLink h
  have hmarked : g.Marked ∧ g.source ≠ .aggregate := by
    rcases hg with hg | ⟨item, hitem, rfl⟩
    · exact ⟨(flat_ofText hg).marked, (flat_ofText hg).source⟩
    · have hflat := flat_ofText hitem
      exact ⟨⟨hflat.formed.ofElement name true, rfl⟩, hflat.source⟩
  rcases hf with ⟨-, rfl⟩ | ⟨issue, rfl⟩
  · exact hmarked.1.withSelector hmarked.2 _
  · exact Field.Flat.marked ⟨rfl, rfl, rfl, by simp⟩

theorem marked_ofMarker {name : String} {source : Source} {body : Value}
    {entries : Entries String Value} {f : Field}
    (h : (Field.ofMarker name source body entries).result = .ok f) : f.Marked := by
  cases source with
  | input => exact marked_ofInput h
  | generate => exact (marked_ofGenerate h).1
  | compute => exact marked_ofCompute h
  | sync =>
      cases h
      exact Field.Flat.marked ⟨rfl, rfl, rfl, by simp [Field.ofSync]⟩
  | aggregate => exact marked_ofAggregateText h
  | fuzzy =>
      cases h
      exact Field.Flat.marked ⟨rfl, rfl, rfl, by simp⟩
  | link => exact marked_ofLink h

theorem exists_withDescription (f : Field) (entries : Entries String Value) :
    ∃ description, f.withDescription entries = { f with description } := by
  unfold Field.withDescription
  split
  · exact ⟨_, rfl⟩
  · refine ⟨f.description, ?_⟩
    cases f
    rfl

theorem exists_withType (f : Field) (entries : Entries String Value) :
    ∃ type, (f.withType entries).1 = { f with type } := by
  unfold Field.withType
  split
  · refine ⟨f.type, ?_⟩
    cases f
    rfl
  · split
    · exact ⟨_, rfl⟩
    · refine ⟨f.type, ?_⟩
      cases f
      rfl

/-- The keys beside a marker annotate what the marker makes of its value. -/
theorem exists_ofMarker_of_ofMarked {name key : String} {source : Source} {body : Value}
    {entries : Entries String Value} {f : Field}
    (h : (Field.ofMarked name key source body entries).result = .ok f) :
    ∃ g description type issues, (Field.ofMarker name source body entries).result = .ok g ∧
      f = { g with
        description, type, options := optionsOf entries, issues := g.issues ++ issues } := by
  simp only [Field.ofMarked, Outcome.result_bind, bind_eq_ok] at h
  obtain ⟨g, hg, h⟩ := h
  rw [Field.result_degradedBy, Except.ok.injEq] at h
  obtain ⟨description, hdescription⟩ :=
    exists_withDescription { g with options := optionsOf entries } entries
  rw [hdescription] at h
  obtain ⟨type, htype⟩ :=
    exists_withType { g with description, options := optionsOf entries } entries
  rw [htype] at h
  exact ⟨g, description, type, _, hg, h.symm⟩

/-- The keys beside a marker change the texts, the shape and the options only. -/
theorem formed_ofMarked {name key : String} {source : Source} {body : Value}
    {entries : Entries String Value} {f : Field} (hkeys : (Entries.keys entries).Nodup)
    (h : (Field.ofMarked name key source body entries).result = .ok f) : f.Formed := by
  obtain ⟨g, description, type, issues, hg, rfl⟩ := exists_ofMarker_of_ofMarked h
  have hm := marked_ofMarker hg
  have ho := freeOptions_optionsOf hkeys
  exact hm.formed.marked hm.nested ho rfl rfl rfl rfl rfl

/-! ## All values -/

/-- Nested fields come from the entries whose keys are not reserved. -/
theorem exists_mem_of_readEntries {entries : List (String × Value)} {fs : List (String × Field)}
    (h : (Field.readEntries entries).result = .ok fs) {e : String × Field} (he : e ∈ fs) :
    isReserved e.1 = false ∧
      ∃ v, (e.1, v) ∈ entries ∧ (Field.read e.1 v).result = .ok e.2 := by
  induction entries generalizing fs with
  | nil =>
      simp only [Field.readEntries] at h
      cases h
      cases he
  | cons entry entries ih =>
      obtain ⟨name, v⟩ := entry
      simp only [Field.readEntries] at h
      split at h
      · obtain ⟨hr, v', hv', hread⟩ := ih h he
        exact ⟨hr, v', by simp [hv'], hread⟩
      · rename_i hreserved
        simp only [Outcome.result_bind, bind_eq_ok] at h
        obtain ⟨f, hf, fs', hfs', h⟩ := h
        cases h
        rcases List.mem_cons.mp he with rfl | he
        · exact ⟨by simpa using hreserved, v, by simp, hf⟩
        · obtain ⟨hr, v', hv', hread⟩ := ih hfs' he
          exact ⟨hr, v', by simp [hv'], hread⟩

theorem flat_ofPrompt {name prompt : String} {entries : Entries String Value} {f : Field}
    (h : Field.ofPrompt name prompt entries = .ok f) : f.Flat := by
  obtain ⟨model, -, h⟩ := bind_eq_ok.mp h
  cases h
  exact ⟨rfl, rfl, rfl, by simp⟩

/-- A list or tuple of one item is read as a list of that item, and any other is none. -/
theorem read_items_cases {v : Value} {items : List Value} (hv : v.items? = some items)
    (name : String) :
    (∃ element, items = [element] ∧ Field.read name v =
      (.ofElement name (sharesDescription element)) <$> Field.read "item" element) ∨
    ((∀ element, items ≠ [element]) ∧
      Field.read name v = Field.ofWrongLength name items.length) := by
  have hvalue : v = .list items ∨ v = .tuple items := by
    cases v <;> simp_all [Value.items?]
  by_cases hitems : ∃ element, items = [element]
  · obtain ⟨element, rfl⟩ := hitems
    refine Or.inl ⟨element, rfl, ?_⟩
    rcases hvalue with rfl | rfl <;> simp only [Field.read]
  · have hitems : ∀ element, items ≠ [element] := by simpa using hitems
    refine Or.inr ⟨hitems, ?_⟩
    rcases hvalue with rfl | rfl
    · rw [Field.read]
      exact hitems
    · rw [Field.read]
      exact hitems

/-- A list of one formed element is formed, and so is what is read from any other list. -/
theorem formed_of_read_items {name : String} {items : List Value} {v : Value} {f : Field}
    (hv : v.items? = some items) (ih : ∀ v ∈ items, ∀ {name : String} {f : Field},
      (Field.read name v).result = .ok f → f.Formed)
    (h : (Field.read name v).result = .ok f) : f.Formed := by
  rcases read_items_cases hv name with ⟨element, rfl, hread⟩ | ⟨-, hread⟩
  · rw [hread, Outcome.result_map] at h
    obtain ⟨item, hitem, rfl⟩ := map_eq_ok.mp h
    exact (ih element (by simp) hitem).ofElement name _
  · rw [hread, Field.ofWrongLength, Field.result_degraded] at h
    cases h
    exact Field.Flat.formed ⟨rfl, rfl, rfl, by simp⟩

/-- What is read is formed. -/
theorem formed_of_read {v : Value} (hv : v.WellKeyed) {name : String} {f : Field}
    (h : (Field.read name v).result = .ok f) : f.Formed := by
  induction hv generalizing name f with
  -- values without members
  | @leaf v hmap hitems =>
      cases v with
      | list | tuple | map => simp [Value.map?, Value.items?] at hmap hitems
      | text s => exact (flat_ofText (by simpa [Field.read] using h)).formed
      | aggregate function path =>
          simp only [Field.read] at h
          cases h
          exact (marked_ofAggregate name (by simp [Aggregate.Resolved])).formed
      | ref path =>
          simp only [Field.read, Field.ofRef] at h
          split at h
          · rw [Field.result_degraded] at h
            cases h
            exact Field.Flat.formed ⟨rfl, rfl, rfl, by simp⟩
          · split at h <;>
            · cases h
              exact Field.Flat.formed ⟨rfl, rfl, rfl, by simp⟩
      | _ =>
          simp only [Field.read, Field.ofUnsupported, Field.result_degraded] at h
          cases h
          exact Field.Flat.formed ⟨rfl, rfl, rfl, by simp [Field.ofQuery]⟩
  | list _ ih => exact formed_of_read_items rfl ih h
  | tuple _ ih => exact formed_of_read_items rfl ih h
  | @map entries hkeys hvalues ih =>
      simp only [Field.read] at h
      split at h
      · exact formed_ofMarked hkeys h
      · split at h
        · exact (flat_ofPrompt h).formed
        · split at h
          · cases h
            exact Field.Flat.formed ⟨rfl, rfl, rfl, by simp⟩
          · simp only [Outcome.result_bind, bind_eq_ok] at h
            obtain ⟨fs, hfs, h⟩ := h
            cases h
            refine .intro .nil ?_ ?_ ?_ ?_ ?_ ?_
            · intros
              exact ⟨rfl, rfl, rfl⟩
            · rintro _ ⟨⟩ e he
              exact (exists_mem_of_readEntries hfs he).1
            · rintro _ ⟨⟩ e he
              obtain ⟨-, v, hv, hread⟩ := exists_mem_of_readEntries hfs he
              exact ih _ hv hread
            · simp
            · simp
            · simp

end Entity
