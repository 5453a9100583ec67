import Entity.Proofs.Field.Formed
import Entity.Proofs.Text.Placeholders
import Mathlib.Tactic.Common

/-!
# What fields carry

A field carries what its source needs: a generation, a path, an aggregate, a reference type, a
computation or a cascade.  Main statement: whatever a field is read from, it and all fields inside
it carry what their sources need and nothing else; what is missing for a computation or a link has
left an issue.
-/

namespace Entity

open Entity.Text

/-! ## Enumerations -/

/-- The alternatives of an enumeration. -/
structure Alternatives (values : List String) : Prop where
  two : 2 ≤ values.length
  nonempty : ∀ v ∈ values, v ≠ ""
  trimmed : ∀ v ∈ values, trimmed v = v
  unbarred : ∀ v ∈ values, '|' ∉ v.toList

/-- What is read as an enumeration has alternatives. -/
theorem alternatives_of_enumValues? {text : String} {values : List String}
    (h : enumValues? text = some values) : Alternatives values := by
  obtain ⟨pieces, hpieces, rfl⟩ := Option.map_eq_some_iff.mp h
  simp only [enumAlternatives?] at hpieces
  split at hpieces
  · cases hpieces
  · rename_i hgood
    cases hpieces
    rw [not_or, Nat.not_lt] at hgood
    have hpiece : ∀ v ∈ ((splitAt '|' text.toList).map trim).map String.ofList,
        ∃ piece ∈ splitAt '|' text.toList, v = String.ofList (trim piece) := by
      intro v hv
      rw [List.map_map] at hv
      obtain ⟨piece, hpiece, rfl⟩ := List.mem_map.mp hv
      exact ⟨piece, hpiece, rfl⟩
    constructor
    · simpa using hgood.1
    · intro v hv hempty
      obtain ⟨piece, hpiece, rfl⟩ := hpiece v hv
      have hnil : trim piece = [] := by simpa using congrArg String.toList hempty
      exact hgood.2 (List.mem_map.mpr ⟨piece, hpiece, hnil⟩)
    · intro v hv
      obtain ⟨piece, -, rfl⟩ := hpiece v hv
      rw [trimmed, String.toList_ofList, trim_trim]
    · intro v hv
      obtain ⟨piece, hpiece, rfl⟩ := hpiece v hv
      rw [String.toList_ofList]
      intro hbar
      exact not_mem_of_mem_splitAt hpiece (mem_of_mem_trim hbar)

theorem Alternatives.ne_nil {values : List String} (h : Alternatives values) : values ≠ [] := by
  rintro rfl
  exact absurd h.two (by decide)

theorem Alternatives.solid {values : List String} (h : Alternatives values) :
    ∀ v ∈ values, SolidStart v.toList ∧ SolidEnd v.toList := by
  intro v hv
  have htrim := congrArg String.toList (h.trimmed v hv)
  rw [Text.trimmed, String.toList_ofList] at htrim
  exact solid_of_trim htrim (mt String.toList_eq_nil_iff.mp (h.nonempty v hv))

/-- Nothing is trimmed off alternatives that are joined again. -/
theorem Alternatives.trimmed_enumText {values : List String} (h : Alternatives values) :
    Text.trimmed (enumText values) = enumText values := by
  have hpieces : ∀ p ∈ values.map String.toList, SolidStart p ∧ SolidEnd p := by
    intro p hp
    obtain ⟨v, hv, rfl⟩ := List.mem_map.mp hp
    exact h.solid v hv
  cases values with
  | nil => rfl
  | cons v values =>
      rw [List.map_cons] at hpieces
      obtain ⟨hstart, hend⟩ := solid_joinWith " | ".toList hpieces
      rw [Text.trimmed, enumText, join, String.toList_ofList, List.map_cons,
        trim_of_solid hstart hend]

/-! ## Payloads -/

/-- The placeholders that a generation lists are those of its prompt, each once, in order of first
appearance. -/
def Generation.Listed (g : Generation) : Prop := g.placeholders = Template.names g.prompt

theorem listed_ofPrompt (prompt : String) : (Generation.ofPrompt prompt).Listed := rfl

theorem Generation.Listed.shaped {g : Generation} (h : g.Listed)
    (schema : Option (Entries String Value)) (model : Option String) :
    ({ g with schema, model } : Generation).Listed := h

/-- An element carries what its list carries; the cascade of the list says that it is one, and that
of a link may select its instances. -/
structure Field.Mirrors (item list : Field) : Prop where
  source : item.source = list.source
  generation : item.generation = list.generation
  syncPath : item.syncPath = list.syncPath
  aggregate : item.aggregate = list.aggregate
  fuzzyTarget : item.fuzzyTarget = list.fuzzyTarget
  compute : item.compute = list.compute
  cascade : list.source ≠ .link →
    list.cascade = item.cascade.map fun c => { c with isArray := true }

/-- A field carries exactly what its source needs; `P` holds of its generation. -/
structure Field.Carries (P : Generation → Prop) (f : Field) : Prop where
  generation : f.generation.isSome ↔ f.source = .generate
  asked : ∀ g, f.generation = some g → P g
  syncPath : f.syncPath.isSome ↔ f.source = .sync
  aggregate : f.aggregate.isSome ↔ f.source = .aggregate
  fuzzyTarget : f.fuzzyTarget.isSome ↔ f.source = .fuzzy
  compute : f.compute.isSome → f.source = .compute
  uncomputed : f.source = .compute → f.compute = none → f.issues ≠ []
  cascade : f.cascade.isSome → f.source = .link ∨ f.source = .input
  unlinked : f.source = .link → f.cascade = none → f.issues ≠ []
  selector : ∀ c, f.cascade = some c → c.selector.isSome → f.source = .link
  nested : f.nested.isSome → f.cascade = none
  enumSource : f.enumValues.isSome → f.source = .input
  enumValues : ∀ values, f.enumValues = some values → Alternatives values
  item : ∀ i, f.item = some i → i.Mirrors f

theorem Field.Carries.cascade_eq_none {P : Generation → Prop} {f : Field} (h : f.Carries P)
    (hlink : f.source ≠ .link) (hinput : f.source ≠ .input) : f.cascade = none := by
  by_contra hne
  rcases h.cascade (Option.isSome_iff_ne_none.mpr hne) with hs | hs
  · exact hlink hs
  · exact hinput hs

theorem Field.Carries.compute_eq_none {P : Generation → Prop} {f : Field} (h : f.Carries P)
    (hs : f.source ≠ .compute) : f.compute = none := by
  by_contra hne
  exact hs (h.compute (Option.isSome_iff_ne_none.mpr hne))

/-- A property holds of a field, of its element and of its nested fields, at every depth. -/
inductive Field.Throughout (P : Field → Prop) : Field → Prop
  | intro {f : Field} (here : P f) (item : ∀ i, f.item = some i → Throughout P i)
      (nested : ∀ fs, f.nested = some fs → ∀ e ∈ fs, Throughout P e.2) : Throughout P f

namespace Field

variable {Q : Field → Prop} {f : Field}

theorem Throughout.here (h : f.Throughout Q) : Q f := by
  cases h
  assumption

theorem Throughout.item (h : f.Throughout Q) {i : Field} (hi : f.item = some i) :
    i.Throughout Q := by
  obtain ⟨-, hitem, -⟩ := h
  exact hitem i hi

theorem Throughout.nested (h : f.Throughout Q) {fs : List (String × Field)}
    (hfs : f.nested = some fs) : ∀ e ∈ fs, e.2.Throughout Q := by
  obtain ⟨-, -, hnested⟩ := h
  exact hnested fs hfs

/-- A field without members. -/
theorem throughout_of_flat (h : Q f) (hitem : f.item = none) (hnested : f.nested = none) :
    f.Throughout Q := by
  refine .intro h ?_ ?_
  · simp [hitem]
  · simp [hnested]

end Field

/-! ## Names -/

/-- Every key of a mapping in the value has a property. -/
inductive Value.Keyed (N : String → Prop) : Value → Prop
  | leaf {v : Value} (hmap : v.map? = none) (hitems : v.items? = none) : Keyed N v
  | list {items : List Value} (h : ∀ v ∈ items, Keyed N v) : Keyed N (.list items)
  | tuple {items : List Value} (h : ∀ v ∈ items, Keyed N v) : Keyed N (.tuple items)
  | map {entries : Entries String Value} (hkeys : ∀ k ∈ Entries.keys entries, N k)
      (h : ∀ e ∈ entries, Keyed N e.2) : Keyed N (.map entries)

theorem Value.keyed_true (v : Value) : v.Keyed fun _ => True := by
  induction v using Value.induct_members with
  | leaf v hmap hitems => exact .leaf hmap hitems
  | list items ih => exact .list ih
  | tuple items ih => exact .tuple ih
  | map entries ih => exact .map (by simp) ih

/-- `P` holds of every generation that is made for a field whose name has the property `N`. -/
structure Asks (N : String → Prop) (P : Generation → Prop) : Prop where
  item : N "item"
  listed : ∀ g : Generation, g.Listed → P g
  schema : ∀ (name : String) (schema : Entries String Value) (model : Option String),
    N name → P (.ofSchema name schema model)

section Reading

variable {N : String → Prop} {P : Generation → Prop}

/-! ## Texts -/

theorem carries_ofInputText (name text : String) : (Field.ofInputText name text).Carries P := by
  unfold Field.ofInputText
  split
  · constructor <;> simp
  · split
    · rename_i values hvalues
      constructor
      case enumValues =>
        rintro _ ⟨⟩
        exact alternatives_of_enumValues? hvalues
      all_goals simp
    · constructor <;> simp

theorem selector_of_read {text description : String} {c : Cascade}
    (h : (Cascade.read text).result = .ok (description, some c)) : c.selector = none := by
  simp only [Cascade.read, Outcome.result_bind, Outcome.result_lift, bind_eq_ok] at h
  obtain ⟨c', hc', -, -, h⟩ := h
  cases h
  exact selector_of_read? hc'

theorem carries_ofText (hP : Asks N P) {name text : String} {f : Field}
    (h : (Field.ofText name text).result = .ok f) : f.Carries P := by
  simp only [Field.ofText, Outcome.result_bind, bind_eq_ok] at h
  obtain ⟨⟨description, cascade⟩, -, h⟩ := h
  cases cascade with
  | some c =>
      cases h
      constructor <;> simp
  | none =>
      simp only at h
      split at h
      · cases h
        constructor <;> simp
      · split at h
        · cases h
          constructor
          case asked =>
            rintro g ⟨⟩
            exact hP.listed _ (listed_ofPrompt _)
          all_goals simp
        · cases h
          exact carries_ofInputText name text

theorem throughout_ofText (hP : Asks N P) {name text : String} {f : Field}
    (h : (Field.ofText name text).result = .ok f) : f.Throughout (Field.Carries P) :=
  Field.throughout_of_flat (carries_ofText hP h) (flat_ofText h).item (flat_ofText h).nested

/-! ## Lists -/

/-- A list carries what its element carries. -/
theorem Field.Carries.ofElement {item : Field} (h : item.Carries P) (name : String)
    (shared : Bool) : (Field.ofElement name shared item).Carries P := by
  constructor
  case cascade => simpa [Field.ofElement] using h.cascade
  case unlinked => simpa [Field.ofElement] using h.unlinked
  case selector =>
    intro c hc hselector
    obtain ⟨c', hc', rfl⟩ := Option.map_eq_some_iff.mp hc
    exact h.selector c' hc' hselector
  case nested => simp [Field.ofElement]
  case enumSource => simp [Field.ofElement]
  case enumValues => simp [Field.ofElement]
  case item =>
    rintro _ ⟨⟩
    exact ⟨rfl, rfl, rfl, rfl, rfl, rfl, fun _ => rfl⟩
  -- what is copied from the element
  · exact h.generation
  · exact h.asked
  · exact h.syncPath
  · exact h.aggregate
  · exact h.fuzzyTarget
  · exact h.compute
  · exact h.uncomputed

theorem Field.Throughout.ofElement {item : Field} (h : item.Throughout (Field.Carries P))
    (name : String) (shared : Bool) :
    (Field.ofElement name shared item).Throughout (Field.Carries P) := by
  refine .intro (h.here.ofElement name shared) ?_ ?_
  · rintro _ ⟨⟩
    exact h
  · rintro _ ⟨⟩

/-! ## Markers -/

theorem throughout_ofInput {name : String} {body : Value} {f : Field}
    (h : (Field.ofInput name body).result = .ok f) : f.Throughout (Field.Carries P) := by
  unfold Field.ofInput at h
  split at h
  · simp only [Outcome.result_bind, bind_eq_ok] at h
    obtain ⟨⟨description, cascade⟩, hread, h⟩ := h
    cases cascade with
    | some c =>
        cases h
        have hselector := selector_of_read hread
        refine Field.throughout_of_flat ?_ rfl rfl
        constructor <;> simp [hselector]
    | none =>
        cases h
        have hflat := flat_ofInputText name
        exact Field.throughout_of_flat (carries_ofInputText name _) (hflat _).item (hflat _).nested
  · cases h
    refine Field.throughout_of_flat ?_ rfl rfl
    constructor <;> simp

/-- A list of a generated element carries the generation of its element. -/
theorem Field.Throughout.ofGeneratedItem {item : Field}
    (h : item.Throughout (Field.Carries P)) (hsource : item.source = .generate) (name : String) :
    (Field.ofGeneratedItem name item).Throughout (Field.Carries P) := by
  have hc := h.here
  -- no cascade is marked as one of a list here: a generated field has none
  have hcascade : item.cascade = none := hc.cascade_eq_none (by simp [hsource]) (by simp [hsource])
  refine .intro ?_ ?_ ?_
  · constructor
    case item =>
      rintro _ ⟨⟩
      refine ⟨rfl, rfl, rfl, rfl, rfl, rfl, fun _ => ?_⟩
      rw [hcascade]
      exact hcascade
    · exact hc.generation
    · exact hc.asked
    · exact hc.syncPath
    · exact hc.aggregate
    · exact hc.fuzzyTarget
    · exact hc.compute
    · exact hc.uncomputed
    · exact hc.cascade
    · exact hc.unlinked
    · exact hc.selector
    · exact hc.nested
    · exact hc.enumSource
    · exact hc.enumValues
  · rintro _ ⟨⟩
    exact h
  · intro fs hfs e he
    exact h.nested hfs e he

theorem throughout_ofGenerate (hP : Asks N P) {name : String} (hname : N name)
    {schema model body : Value} {f : Field}
    (h : Field.ofGenerate name schema model body = .ok f) : f.Throughout (Field.Carries P) := by
  fun_induction Field.ofGenerate name schema model body generalizing f with
  | case1 name entries =>
      obtain ⟨model, -, h⟩ := bind_eq_ok.mp h
      cases h
      refine Field.throughout_of_flat ?_ rfl rfl
      constructor
      case asked =>
        rintro g ⟨⟩
        exact hP.schema name entries model hname
      all_goals simp
  | case2 name element ih =>
      obtain ⟨item, hitem, rfl⟩ := map_eq_ok.mp h
      exact (ih hP.item hitem).ofGeneratedItem (marked_ofGenerate hitem).2 name
  | case3 name element ih =>
      obtain ⟨item, hitem, rfl⟩ := map_eq_ok.mp h
      exact (ih hP.item hitem).ofGeneratedItem (marked_ofGenerate hitem).2 name
  | case4 name body =>
      cases h
      refine Field.throughout_of_flat ?_ rfl rfl
      constructor
      case asked =>
        rintro g ⟨⟩
        exact hP.listed _ ((listed_ofPrompt _).shaped _ _)
      all_goals simp [Field.ofGeneratedText]

theorem throughout_ofCompute {name : String} {body : Value} {f : Field}
    (h : (Field.ofCompute name body).result = .ok f) : f.Throughout (Field.Carries P) := by
  unfold Field.ofCompute at h
  split at h
  · cases h
    refine Field.throughout_of_flat ?_ rfl rfl
    constructor <;> simp
  · rw [Field.result_degraded] at h
    cases h
    refine Field.throughout_of_flat ?_ rfl rfl
    constructor <;> simp

theorem throughout_ofAggregate (name : String) (a : Aggregate) :
    (Field.ofAggregate name a).Throughout (Field.Carries P) := by
  refine Field.throughout_of_flat ?_ rfl rfl
  constructor <;> simp [Field.ofAggregate]

theorem throughout_ofAggregateText {name text : String} {f : Field}
    (h : (Field.ofAggregateText name text).result = .ok f) :
    f.Throughout (Field.Carries P) := by
  unfold Field.ofAggregateText at h
  split at h
  · rw [Field.result_degraded] at h
    cases h
    refine Field.throughout_of_flat ?_ rfl rfl
    constructor <;> simp
  · split at h
    · cases h
      exact throughout_ofAggregate name _
    · cases h

/-- A link may be given what selects its instances. -/
theorem Field.Throughout.withSelector {f : Field} (h : f.Throughout (Field.Carries P))
    (hsource : f.source = .link) (selector : Option Computation) :
    (f.withSelector selector).Throughout (Field.Carries P) := by
  cases selector with
  | none => exact h
  | some s =>
      have hc := h.here
      refine .intro ?_ (fun i hi => h.item hi) (fun fs hfs => h.nested hfs)
      constructor
      case cascade => simpa [Field.withSelector] using hc.cascade
      case unlinked => simpa [Field.withSelector] using hc.unlinked
      case selector =>
        intro _ _ _
        exact hsource
      case nested =>
        intro hn
        simp [Field.withSelector, hc.nested hn]
      case item =>
        intro i hi
        have hm := hc.item i hi
        refine ⟨hm.source, hm.generation, hm.syncPath, hm.aggregate, hm.fuzzyTarget, hm.compute,
          ?_⟩
        intro hlink
        exact absurd hsource hlink
      · exact hc.generation
      · exact hc.asked
      · exact hc.syncPath
      · exact hc.aggregate
      · exact hc.fuzzyTarget
      · exact hc.compute
      · exact hc.uncomputed
      · exact hc.enumSource
      · exact hc.enumValues

/-- A text with an operator is read as a link. -/
theorem source_of_ofText {name text : String} {f : Field}
    (h : (Field.ofText name text).result = .ok f) (hcascade : f.cascade.isSome) :
    f.source = .link := by
  cases hread : Cascade.read? text with
  | error e =>
      rw [result_ofText_error hread] at h
      cases h
  | ok c =>
      obtain ⟨g, hg, hc, hlink⟩ := exists_result_ofText hread name
      rw [hg] at h
      cases h
      exact (hlink (hc ▸ hcascade)).1

theorem throughout_ofLink (hP : Asks N P) {name : String} {body selector : Value} {f : Field}
    (h : (Field.ofLink name body selector).result = .ok f) :
    f.Throughout (Field.Carries P) := by
  obtain ⟨text, g, hg, hf⟩ := exists_of_ofLink h
  -- a text without an operator leaves a description and an issue
  rcases hf with ⟨hcascade, rfl⟩ | ⟨issue, rfl⟩
  · rcases hg with hg | ⟨item, hitem, rfl⟩
    · exact (throughout_ofText hP hg).withSelector (source_of_ofText hg hcascade) _
    · have hsource : item.source = .link :=
        source_of_ofText hitem (by simpa [Field.ofElement] using hcascade)
      exact ((throughout_ofText hP hitem).ofElement name true).withSelector hsource _
  · refine Field.throughout_of_flat ?_ rfl rfl
    constructor <;> simp

theorem throughout_ofMarker (hP : Asks N P) {name : String} (hname : N name) {source : Source}
    {body : Value} {entries : Entries String Value} {f : Field}
    (h : (Field.ofMarker name source body entries).result = .ok f) :
    f.Throughout (Field.Carries P) := by
  cases source with
  | input => exact throughout_ofInput h
  | generate => exact throughout_ofGenerate hP hname h
  | compute => exact throughout_ofCompute h
  | sync =>
      cases h
      refine Field.throughout_of_flat ?_ rfl rfl
      constructor <;> simp [Field.ofSync]
  | aggregate => exact throughout_ofAggregateText h
  | fuzzy =>
      cases h
      refine Field.throughout_of_flat ?_ rfl rfl
      constructor <;> simp
  | link => exact throughout_ofLink hP h

/-- Other texts, another shape, options and more issues are no payload. -/
theorem Field.Throughout.annotated {f : Field} (h : f.Throughout (Field.Carries P))
    (description : String) (type : Primitive) (options : List (String × Value))
    (issues : List String) :
    ({ f with description, type, options, issues := f.issues ++ issues } : Field).Throughout
      (Field.Carries P) := by
  have hc := h.here
  refine .intro ?_ (fun i hi => h.item hi) (fun fs hfs => h.nested hfs)
  constructor
  case uncomputed =>
    intro hsource hnone
    simp [hc.uncomputed hsource hnone]
  case unlinked =>
    intro hsource hnone
    simp [hc.unlinked hsource hnone]
  case item =>
    intro i hi
    have hm := hc.item i hi
    exact ⟨hm.source, hm.generation, hm.syncPath, hm.aggregate, hm.fuzzyTarget, hm.compute,
      hm.cascade⟩
  · exact hc.generation
  · exact hc.asked
  · exact hc.syncPath
  · exact hc.aggregate
  · exact hc.fuzzyTarget
  · exact hc.compute
  · exact hc.cascade
  · exact hc.selector
  · exact hc.nested
  · exact hc.enumSource
  · exact hc.enumValues

/-! ## All values -/

/-- A list with one element carries what its element carries; any other list carries nothing. -/
theorem throughout_of_read_items {name : String} {items : List Value} {v : Value} {f : Field}
    (hv : v.items? = some items) (hitem : N "item")
    (ih : ∀ v ∈ items, ∀ {name : String}, N name → ∀ {f : Field},
      (Field.read name v).result = .ok f → f.Throughout (Field.Carries P))
    (h : (Field.read name v).result = .ok f) : f.Throughout (Field.Carries P) := by
  rcases read_items_cases hv name with ⟨element, rfl, hread⟩ | ⟨-, hread⟩
  · rw [hread, Outcome.result_map] at h
    obtain ⟨item, hread, rfl⟩ := map_eq_ok.mp h
    exact (ih element (by simp) hitem hread).ofElement name _
  · rw [hread, Field.ofWrongLength, Field.result_degraded] at h
    cases h
    refine Field.throughout_of_flat ?_ rfl rfl
    constructor <;> simp

theorem throughout_of_read_leaf (hP : Asks N P) {v : Value} (hmap : v.map? = none)
    (hitems : v.items? = none) {name : String} {f : Field}
    (h : (Field.read name v).result = .ok f) : f.Throughout (Field.Carries P) := by
  cases v with
  | list | tuple | map => simp [Value.map?, Value.items?] at hmap hitems
  | text s => exact throughout_ofText hP (by simpa [Field.read] using h)
  | aggregate function path =>
      simp only [Field.read] at h
      cases h
      exact throughout_ofAggregate name _
  | ref path =>
      simp only [Field.read, Field.ofRef] at h
      split at h
      · rw [Field.result_degraded] at h
        cases h
        refine Field.throughout_of_flat ?_ rfl rfl
        constructor <;> simp
      · split at h <;>
        · cases h
          refine Field.throughout_of_flat ?_ rfl rfl
          constructor <;> simp
  | _ =>
      simp only [Field.read, Field.ofUnsupported, Field.result_degraded] at h
      cases h
      refine Field.throughout_of_flat ?_ rfl rfl
      constructor <;> simp [Field.ofQuery]

/-- A prompt carries its generation. -/
theorem throughout_ofPrompt (hP : Asks N P) {name prompt : String}
    {entries : Entries String Value} {f : Field}
    (h : (Field.ofPrompt name prompt entries : Except Failure Field) = .ok f) :
    f.Throughout (Field.Carries P) := by
  obtain ⟨model, -, h⟩ := bind_eq_ok.mp h
  cases h
  refine Field.throughout_of_flat ?_ rfl rfl
  constructor
  case asked =>
    rintro g ⟨⟩
    exact hP.listed _ ((listed_ofPrompt _).shaped _ _)
  all_goals simp

/-- A mapping is read by its marker, as one prompt, or member by member. -/
theorem throughout_of_read_map (hP : Asks N P) {entries : Entries String Value} {name : String}
    (hname : N name)
    (ih : ∀ e ∈ entries, ∀ {f : Field}, (Field.read e.1 e.2).result = .ok f →
      f.Throughout (Field.Carries P))
    {f : Field} (h : (Field.read name (.map entries)).result = .ok f) :
    f.Throughout (Field.Carries P) := by
  simp only [Field.read] at h
  split at h
  · obtain ⟨g, description, type, issues, hg, rfl⟩ := exists_ofMarker_of_ofMarked h
    exact (throughout_ofMarker hP hname hg).annotated description type _ issues
  · split at h
    · exact throughout_ofPrompt hP h
    · split at h
      · cases h
        refine Field.throughout_of_flat ?_ rfl rfl
        constructor
        case asked =>
          rintro g ⟨⟩
          exact hP.schema name entries none hname
        all_goals simp
      · simp only [Outcome.result_bind, bind_eq_ok] at h
        obtain ⟨fs, hfs, h⟩ := h
        cases h
        refine .intro ?_ ?_ ?_
        · constructor <;> simp
        · rintro _ ⟨⟩
        -- a nested field is read under its key
        · rintro _ ⟨⟩ e he
          obtain ⟨-, v, hv, hread⟩ := exists_mem_of_readEntries hfs he
          exact ih _ hv hread

/-- Whatever is read carries what its source needs. -/
theorem throughout_of_read (hP : Asks N P) {v : Value} (hv : v.Keyed N) {name : String}
    (hname : N name) {f : Field} (h : (Field.read name v).result = .ok f) :
    f.Throughout (Field.Carries P) := by
  induction hv generalizing name f with
  | leaf hmap hitems => exact throughout_of_read_leaf hP hmap hitems h
  | list _ ih => exact throughout_of_read_items rfl hP.item ih h
  | tuple _ ih => exact throughout_of_read_items rfl hP.item ih h
  | map hkeys _ ih =>
      refine throughout_of_read_map hP hname (fun e he f hread => ?_) h
      exact ih e he (hkeys _ (List.mem_map_of_mem he)) hread

end Reading

/-! ## Names without placeholders -/

/-- The text has no placeholder. -/
def Plain (name : String) : Prop := Template.hasPlaceholder name = false

instance : DecidablePred Plain := fun _ => inferInstanceAs (Decidable (_ = false))

/-- The generation of a field with a plain name lists the placeholders of its prompt. -/
theorem asks_listed : Asks Plain Generation.Listed := by
  constructor
  · decide
  · intro g hg
    exact hg
  · intro name schema model hname
    exact (names_ofSchema hname schema model).symm

/-- **Fields carry exactly what their sources need.**  Whatever value a field is read from, it and
the fields inside it have a generation, a path, an aggregate or a reference type exactly if their
sources need one; computations, cascades and alternatives stand only where their sources allow them,
and where a computation or a link has none, there is an issue; a generation lists the placeholders
of its prompt. -/
theorem payload_of_read {v : Value} (hv : v.Keyed Plain) {name : String} (hname : Plain name)
    {f : Field} (h : (Field.read name v).result = .ok f) :
    f.Throughout (Field.Carries Generation.Listed) :=
  throughout_of_read asks_listed hv hname h

namespace Deal

/-- Nested fields: a list of prompts made from mappings, a choice, a computation without a body,
and a link with a function. -/
def raw : Value :=
  .map [("pitch", .map [("$generate", .list [.map [("hook", .text "For \x7bname\x7d")]])]),
    ("stage", .text "Seed | Growth"),
    ("score", .list [.map [("$compute", .int 3)]]),
    ("owner", .map [("$link", .list [.text "Person"]), ("where", .text "lambda p: p.active")])]

theorem keyed_raw : raw.Keyed Plain := by
  refine .map (by decide) ?_
  simp only [List.forall_mem_cons]
  refine ⟨.map (by decide) ?_, .leaf rfl rfl, .list ?_, .map (by decide) ?_, by simp⟩
  -- the mapping under the marker is what the generation is asked for
  · simp only [List.forall_mem_cons]
    refine ⟨.list ?_, by simp⟩
    simp only [List.forall_mem_cons]
    refine ⟨.map (by decide) ?_, by simp⟩
    simp only [List.forall_mem_cons]
    exact ⟨.leaf rfl rfl, by simp⟩
  · simp only [List.forall_mem_cons]
    refine ⟨.map (by decide) ?_, by simp⟩
    simp only [List.forall_mem_cons]
    exact ⟨.leaf rfl rfl, by simp⟩
  · simp only [List.forall_mem_cons]
    refine ⟨.list ?_, .leaf rfl rfl, by simp⟩
    simp only [List.forall_mem_cons]
    exact ⟨.leaf rfl rfl, by simp⟩

end Deal

/-- The general statement for an object whose members are of several sources. -/
theorem payload_of_read_deal : Deal.raw.Keyed Plain ∧ Plain "deal" ∧
    ∃ f, (Field.read "deal" Deal.raw).result = .ok f ∧
      f.Throughout (Field.Carries Generation.Listed) ∧
      (f.nested.map fun fs => fs.map fun e => (e.1, e.2.source)) =
        some [("pitch", .generate), ("stage", .input), ("score", .compute), ("owner", .link)] := by
  have hname : Plain "deal" := by decide
  exact ⟨Deal.keyed_raw, hname, _, rfl, payload_of_read Deal.keyed_raw hname rfl, rfl⟩

end Entity
