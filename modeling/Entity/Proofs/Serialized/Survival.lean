import Entity.Proofs.Serialized.Marked
import Mathlib.Data.List.Forall2

/-!
# Which fields survive

A field is serialized, rebuilt as a raw value and read again.  Main statement: whether this fails,
and when it does not, which source, type and options the field comes back with.
-/

namespace Entity

open Entries Entity.Text

/-! ## Survival -/

namespace Field

/-- The value that the field is rebuilt from has a placeholder outside of its markers: in a text
beside the marker, or in an element or a nested field. -/
inductive Exposes : Field → Prop
  | marked {f : Field} (hf : f.form = .marked)
      (h : Template.valueHasPlaceholder (.map (f.beside ++ f.options)) = true) : Exposes f
  | list {f i : Field} (hf : f.form = .list i) (h : Exposes i) : Exposes f
  | object {f : Field} {fs : List (String × Field)} (hf : f.form = .object fs)
      {e : String × Field} (he : e ∈ fs) (h : Exposes e.2) : Exposes f

/-- The value that the field is rebuilt from is read without a failure. -/
inductive Rereads : Field → Prop
  | marked {f : Field} (hf : f.form = .marked) (h : f.Legible) : Rereads f
  | list {f i : Field} (hf : f.form = .list i) (h : Rereads i) : Rereads f
  /-- A mapping with a placeholder is read as one prompt. -/
  | exposed {f : Field} {fs : List (String × Field)} (hf : f.form = .object fs)
      (h : f.Exposes) : Rereads f
  | object {f : Field} {fs : List (String × Field)} (hf : f.form = .object fs)
      (h : ∀ e ∈ fs, Rereads e.2) : Rereads f

/-- The field comes back with its source: an object must not expose a placeholder. -/
inductive KeepsSource : Field → Prop
  | marked {f : Field} (hf : f.form = .marked) : KeepsSource f
  | list {f i : Field} (hf : f.form = .list i) (h : KeepsSource i) : KeepsSource f
  | object {f : Field} {fs : List (String × Field)} (hf : f.form = .object fs)
      (h : ¬ f.Exposes) : KeepsSource f

/-! ### One case per form -/

section Forms

variable {f i : Field} {fs : List (String × Field)}

theorem exposes_iff_of_marked (hf : f.form = .marked) :
    f.Exposes ↔ Template.valueHasPlaceholder (.map (f.beside ++ f.options)) = true := by
  constructor
  · intro h
    cases h with
    | marked _ h => exact h
    | list hf' | object hf' => simp [hf] at hf'
  · exact .marked hf

theorem exposes_iff_of_list (hf : f.form = .list i) : f.Exposes ↔ i.Exposes := by
  constructor
  · intro h
    cases h with
    | list hf' h =>
        rw [hf] at hf'
        cases hf'
        exact h
    | marked hf' | object hf' => simp [hf] at hf'
  · exact .list hf

theorem exposes_iff_of_object (hf : f.form = .object fs) :
    f.Exposes ↔ ∃ e ∈ fs, e.2.Exposes := by
  constructor
  · intro h
    cases h with
    | object hf' he h =>
        rw [hf] at hf'
        cases hf'
        exact ⟨_, he, h⟩
    | marked hf' | list hf' => simp [hf] at hf'
  · rintro ⟨e, he, h⟩
    exact .object hf he h

theorem rereads_iff_of_marked (hf : f.form = .marked) : f.Rereads ↔ f.Legible := by
  constructor
  · intro h
    cases h with
    | marked _ h => exact h
    | list hf' | exposed hf' | object hf' => simp [hf] at hf'
  · exact .marked hf

theorem rereads_iff_of_list (hf : f.form = .list i) : f.Rereads ↔ i.Rereads := by
  constructor
  · intro h
    cases h with
    | list hf' h =>
        rw [hf] at hf'
        cases hf'
        exact h
    | marked hf' | exposed hf' | object hf' => simp [hf] at hf'
  · exact .list hf

theorem rereads_iff_of_object (hf : f.form = .object fs) :
    f.Rereads ↔ f.Exposes ∨ ∀ e ∈ fs, e.2.Rereads := by
  constructor
  · intro h
    cases h with
    | exposed _ h => exact Or.inl h
    | object hf' h =>
        rw [hf] at hf'
        cases hf'
        exact Or.inr h
    | marked hf' | list hf' => simp [hf] at hf'
  · rintro (h | h)
    · exact .exposed hf h
    · exact .object hf h

theorem keepsSource_iff_of_list (hf : f.form = .list i) : f.KeepsSource ↔ i.KeepsSource := by
  constructor
  · intro h
    cases h with
    | list hf' h =>
        rw [hf] at hf'
        cases hf'
        exact h
    | marked hf' | object hf' => simp [hf] at hf'
  · exact .list hf

theorem keepsSource_iff_of_object (hf : f.form = .object fs) : f.KeepsSource ↔ ¬ f.Exposes := by
  constructor
  · intro h
    cases h with
    | object _ h => exact h
    | marked hf' | list hf' => simp [hf] at hf'
  · exact .object hf

end Forms

/-! ### What comes back -/

/-- The type that the field comes back with. -/
def keptType (f : Field) : Primitive :=
  match f.form with
  | .marked => f.markedType
  | _ => f.type

/-- The options that the field comes back with. -/
def keptOptions (f : Field) : Entries String Value :=
  match f.form with
  | .list _ => []
  | _ => f.options

/-- What is known of the raw value that a field is rebuilt from. -/
structure Rebuilt (f : Field) (raw : Value) : Prop where
  rawOf : rawOf f.serialize = .ok raw
  built : raw.map?.isSome ∨ raw.items?.isSome
  exposes : Template.valueHasPlaceholder raw = true ↔ f.Exposes
  read : f.Rereads → ∀ name, ∃ f', (Field.read name raw).result = .ok f' ∧
    (f'.source = f.source ↔ f.KeepsSource) ∧ f'.type = f.keptType ∧ f'.options = f.keptOptions
  fails : ¬ f.Rereads → ∀ name, ∃ e, (Field.read name raw).result = .error e

/-! ## Placeholders in entries -/

theorem textsOfEntries_eq (es : List (String × Value)) : Template.textsOfEntries es =
    es.flatMap fun e => if isReserved e.1 then [] else Template.texts e.2 := by
  induction es with
  | nil => simp [Template.textsOfEntries]
  | cons e es ih => rw [Template.textsOfEntries, ih, List.flatMap_cons]

theorem valueHasPlaceholder_map (es : List (String × Value)) :
    Template.valueHasPlaceholder (.map es) = true ↔
      ∃ e ∈ es, isReserved e.1 = false ∧ Template.valueHasPlaceholder e.2 = true := by
  simp only [Template.valueHasPlaceholder, Template.texts, textsOfEntries_eq, List.any_eq_true,
    List.mem_flatMap]
  constructor
  · rintro ⟨s, ⟨e, he, hs⟩, hp⟩
    split at hs
    · cases hs
    · rename_i hr
      exact ⟨e, he, by simpa using hr, s, hs, hp⟩
  · rintro ⟨e, he, hr, s, hs, hp⟩
    exact ⟨s, ⟨e, he, by simpa [hr] using hs⟩, hp⟩

theorem isReserved_marker (s : Source) : isReserved ("$" ++ s.name) = true := by
  cases s <;> rfl

theorem ofMarker?_of_unreserved {key : String} (h : isReserved key = false) :
    Source.ofMarker? key = none := by
  refine List.find?_eq_none.mpr fun s _ hs => ?_
  have hkey : "$" ++ s.name = key := by simpa using hs
  rw [← hkey, isReserved_marker] at h
  cases h

/-! ## The three forms -/

theorem rebuilt_marked {f : Field} (h : f.Formed) (hf : f.form = .marked) :
    f.Rebuilt (.map f.markedEntries) := by
  refine ⟨rawOf_serialize_marked h.freeOptions hf, Or.inl rfl, ?_, ?_, ?_⟩
  · rw [exposes_iff_of_marked hf, valueHasPlaceholder_map, valueHasPlaceholder_map, markedEntries]
    -- the key of a marker is reserved, so that the text under it does not count
    simp [isReserved_marker]
  · intro hr name
    obtain ⟨f', hf', hback, htype, hoptions⟩ :=
      exists_result_read_marked h ((rereads_iff_of_marked hf).mp hr) name
    refine ⟨f', hf', iff_of_true hback.source (.marked hf), ?_, ?_⟩
    · rw [htype, keptType, hf]
    · rw [hoptions, keptOptions, hf]
  · intro hr name
    exact exists_error_read_marked h (mt (rereads_iff_of_marked hf).mpr hr) name

theorem rebuilt_list {f i : Field} {raw : Value} (h : f.Formed) (hf : f.form = .list i)
    (hi : i.Rebuilt raw) : f.Rebuilt (.list [raw]) := by
  obtain ⟨-, htype, hitem⟩ := form_eq_list.mp hf
  have hsource := h.source_item hitem
  refine ⟨?_, Or.inr rfl, ?_, ?_, ?_⟩
  · rw [rawOf_serialize_list hf, hi.rawOf]
    rfl
  · have hone : Template.valueHasPlaceholder (.list [raw]) = Template.valueHasPlaceholder raw := by
      simp [Template.valueHasPlaceholder, Template.texts, Template.textsOfItems]
    rw [hone, hi.exposes, exposes_iff_of_list hf]
  · intro hr name
    obtain ⟨i', hi', hkeeps, -, -⟩ := hi.read ((rereads_iff_of_list hf).mp hr) "item"
    -- a list takes its source from its element, and nothing else
    refine ⟨.ofElement name (sharesDescription raw) i', ?_, ?_, ?_, ?_⟩
    · simp only [Field.read, Outcome.result_map, hi']
      rfl
    · rw [keepsSource_iff_of_list hf, ← hkeeps, ← hsource]
      rfl
    · simp only [keptType, hf, htype, ofElement]
    · simp only [keptOptions, hf, ofElement]
  · intro hr name
    obtain ⟨e, he⟩ := hi.fails (mt (rereads_iff_of_list hf).mpr hr) "item"
    refine ⟨e, ?_⟩
    simp only [Field.read, Outcome.result_map, he]
    rfl

/-! ## Nested fields -/

/-- The raw values that named fields are rebuilt from, in order. -/
def AllRebuilt (fs : List (String × Field)) (raws : List (String × Value)) : Prop :=
  List.Forall₂ (fun e r => r.1 = e.1 ∧ e.2.Rebuilt r.2) fs raws

theorem exists_allRebuilt {fs : List (String × Field)} (h : ∀ e ∈ fs, ∃ raw, e.2.Rebuilt raw) :
    ∃ raws, rawOfAll (serializeAll fs) = .ok raws ∧ AllRebuilt fs raws := by
  induction fs with
  | nil => exact ⟨[], by simp only [serializeAll, rawOfAll], .nil⟩
  | cons e fs ih =>
      obtain ⟨raw, hraw⟩ := h e (by simp)
      obtain ⟨raws, hraws, hall⟩ := ih fun e' he' => h e' (by simp [he'])
      refine ⟨(e.1, raw) :: raws, ?_, .cons ⟨rfl, hraw⟩ hall⟩
      simp only [serializeAll, rawOfAll, hraw.rawOf, hraws]
      rfl

theorem AllRebuilt.unreserved {fs : List (String × Field)} {raws : List (String × Value)}
    (h : AllRebuilt fs raws) (hnames : ∀ e ∈ fs, isReserved e.1 = false) :
    ∀ r ∈ raws, isReserved r.1 = false := by
  induction h with
  | nil => simp
  | cons hr _ ih =>
      intro r hmem
      rcases List.mem_cons.mp hmem with rfl | hmem
      · rw [hr.1]
        exact hnames _ (by simp)
      · exact ih (fun e he => hnames e (by simp [he])) r hmem

/-- No raw value of a field is a text or a function. -/
theorem AllRebuilt.built {fs : List (String × Field)} {raws : List (String × Value)}
    (h : AllRebuilt fs raws) : ∀ r ∈ raws, r.2.map?.isSome ∨ r.2.items?.isSome := by
  induction h with
  | nil => simp
  | cons hr _ ih =>
      intro r hmem
      rcases List.mem_cons.mp hmem with rfl | hmem
      · exact hr.2.built
      · exact ih r hmem

theorem AllRebuilt.exposes {fs : List (String × Field)} {raws : List (String × Value)}
    (h : AllRebuilt fs raws) :
    (∃ r ∈ raws, Template.valueHasPlaceholder r.2 = true) ↔ ∃ e ∈ fs, e.2.Exposes := by
  induction h with
  | nil => simp
  | cons hr _ ih => simp [ih, hr.2.exposes]

/-- Every member of the second list belongs to one of the first. -/
theorem exists_of_forall₂ {α β : Type} {R : α → β → Prop} {as : List α} {bs : List β}
    (h : List.Forall₂ R as bs) {b : β} (hb : b ∈ bs) : ∃ a ∈ as, R a b := by
  induction h with
  | nil => cases hb
  | @cons a b' as bs hr _ ih =>
      rcases List.mem_cons.mp hb with rfl | hb
      · exact ⟨a, by simp, hr⟩
      · obtain ⟨a', ha', hr'⟩ := ih hb
        exact ⟨a', by simp [ha'], hr'⟩

/-- Nested fields are read again, one after the other. -/
theorem AllRebuilt.read {fs : List (String × Field)} {raws : List (String × Value)}
    (h : AllRebuilt fs raws) (hr : ∀ e ∈ fs, e.2.Rereads) :
    ∃ fs', (readEntries raws).result = .ok fs' := by
  induction h with
  | nil => exact ⟨[], by simp only [readEntries]; rfl⟩
  | @cons e r fs raws hr' _ ih =>
      obtain ⟨fs', hfs'⟩ := ih fun e' he' => hr e' (by simp [he'])
      obtain ⟨f', hf', -⟩ := hr'.2.read (hr e (by simp)) r.1
      rw [readEntries]
      split
      · exact ⟨fs', hfs'⟩
      · simp only [Outcome.result_bind, hf', hfs']
        exact ⟨_, rfl⟩

theorem AllRebuilt.fails {fs : List (String × Field)} {raws : List (String × Value)}
    (h : AllRebuilt fs raws) (hnames : ∀ e ∈ fs, isReserved e.1 = false)
    (hr : ¬ ∀ e ∈ fs, e.2.Rereads) : ∃ err, (readEntries raws).result = .error err := by
  induction h with
  | nil => simp at hr
  | @cons e r fs raws hr' _ ih =>
      have hname : isReserved r.1 = false := by
        rw [hr'.1]
        exact hnames e (by simp)
      rw [readEntries, if_neg (by simp [hname]), Outcome.result_bind]
      by_cases he : e.2.Rereads
      · obtain ⟨f', hf', -⟩ := hr'.2.read he r.1
        have hrest : ¬ ∀ e' ∈ fs, e'.2.Rereads := by
          intro hall
          exact hr (List.forall_mem_cons.mpr ⟨he, hall⟩)
        obtain ⟨err, herr⟩ := ih (fun e' he' => hnames e' (by simp [he'])) hrest
        refine ⟨err, ?_⟩
        simp only [hf', Except.bind, Outcome.result_bind, herr]
      · obtain ⟨err, herr⟩ := hr'.2.fails he r.1
        exact ⟨err, by rw [herr]; rfl⟩

theorem marker?_eq_none {es : Entries String Value} (h : ∀ e ∈ es, isReserved e.1 = false) :
    marker? es = none := by
  induction es with
  | nil => rfl
  | cons e es ih =>
      rw [marker?, ofMarker?_of_unreserved (h e (by simp))]
      exact ih fun e' he' => h e' (by simp [he'])

/-- A mapping without texts has no prompt. -/
theorem promptOf?_eq_none {es : Entries String Value}
    (h : ∀ e ∈ es, e.2.map?.isSome ∨ e.2.items?.isSome) : promptOf? es = none := by
  have htext : ∀ key s, get? key es ≠ some (.text s) := by
    intro key s hfound
    simpa [Value.map?, Value.items?] using h _ (mem_of_get?_eq_some hfound)
  unfold promptOf?
  split
  · exact absurd ‹_› (htext _ _)
  · exact absurd ‹_› (htext _ _)
  · rfl

/-- A mapping of nested fields is read as one prompt, if it shows a placeholder, or else field by
field. -/
theorem read_rebuilt {fs : List (String × Field)} {raws : List (String × Value)}
    (h : AllRebuilt fs raws) (hnames : ∀ e ∈ fs, isReserved e.1 = false) (name : String) :
    Field.read name (.map raws) =
      if Template.valueHasPlaceholder (.map raws) then return {
        name, description := name, source := .generate, type := .object
        generation := some (.ofSchema name raws none) }
      else do
        let nested ← readEntries raws
        return { name, description := name, source := .input, type := .object
                 nested := some nested } := by
  have hmarker := marker?_eq_none (h.unreserved hnames)
  have hprompt := promptOf?_eq_none h.built
  simp only [Field.read, hmarker, hprompt]

theorem rebuilt_object {f : Field} {fs : List (String × Field)} {raws : List (String × Value)}
    (h : f.Formed) (hf : f.form = .object fs) (hraws : rawOfAll (serializeAll fs) = .ok raws)
    (hall : AllRebuilt fs raws) : f.Rebuilt (.map raws) := by
  obtain ⟨hsource, -, hnested⟩ := form_eq_object.mp hf
  obtain ⟨-, htype, hoptions⟩ := h.object hnested
  have hnames := h.unreserved hnested
  have hexposes : Template.valueHasPlaceholder (.map raws) = true ↔ f.Exposes := by
    rw [exposes_iff_of_object hf, ← hall.exposes, valueHasPlaceholder_map]
    refine exists_congr fun r => and_congr_right fun hr => ?_
    simp [hall.unreserved hnames r hr]
  refine ⟨?_, Or.inl rfl, hexposes, ?_, ?_⟩
  · rw [rawOf_serialize_object hf, hraws]
    rfl
  · intro hr name
    rw [read_rebuilt hall hnames]
    by_cases hexp : f.Exposes
    · -- the mapping is read as one prompt, which is another source
      rw [if_pos (hexposes.mpr hexp)]
      refine ⟨_, rfl, iff_of_false ?_ ?_, ?_, ?_⟩
      · simp [hsource]
      · simpa [keepsSource_iff_of_object hf] using hexp
      · simp only [keptType, hf, htype]
      · simp only [keptOptions, hf, hoptions]
    · have hmembers := ((rereads_iff_of_object hf).mp hr).resolve_left hexp
      obtain ⟨fs', hfs'⟩ := hall.read hmembers
      rw [if_neg (mt hexposes.mp hexp), Outcome.result_bind, hfs']
      refine ⟨_, rfl, iff_of_true hsource.symm (.object hf hexp), ?_, ?_⟩
      · simp only [keptType, hf, htype]
      · simp only [keptOptions, hf, hoptions]
  · intro hr name
    rw [rereads_iff_of_object hf, not_or] at hr
    obtain ⟨err, herr⟩ := hall.fails hnames hr.2
    refine ⟨err, ?_⟩
    rw [read_rebuilt hall hnames, if_neg (mt hexposes.mp hr.1), Outcome.result_bind, herr]
    rfl

/-! ## All fields -/

/-- **What a formed field is rebuilt from.** -/
theorem Formed.exists_rebuilt {f : Field} (h : f.Formed) : ∃ raw, f.Rebuilt raw := by
  have hformed := h
  -- by induction over the element and the nested fields
  induction h with
  | @intro f _ _ _ members _ item _ ihmembers ihitem =>
      cases hf : f.form with
      | marked => exact ⟨_, rebuilt_marked hformed hf⟩
      | list i =>
          obtain ⟨-, -, hi⟩ := form_eq_list.mp hf
          obtain ⟨raw, hraw⟩ := ihitem i hi (item i hi)
          exact ⟨_, rebuilt_list hformed hf hraw⟩
      | object fs =>
          obtain ⟨-, -, hn⟩ := form_eq_object.mp hf
          obtain ⟨raws, hraws, hall⟩ :=
            exists_allRebuilt fun e he => ihmembers fs hn e he (members fs hn e he)
          exact ⟨_, rebuilt_object hformed hf hraws hall⟩

theorem Rebuilt.unique {f : Field} {raw raw' : Value} (h : f.Rebuilt raw) (h' : f.Rebuilt raw') :
    raw = raw' := by
  have hraw := h.rawOf
  rw [h'.rawOf] at hraw
  cases hraw
  rfl

/-! ### What a field was rebuilt from -/

section Inversion

variable {f i : Field} {fs : List (String × Field)} {raw : Value} (h : f.Rebuilt raw)
  (hformed : f.Formed)

include h hformed

theorem Rebuilt.eq_of_marked (hf : f.form = .marked) : raw = .map f.markedEntries :=
  h.unique (rebuilt_marked hformed hf)

theorem Rebuilt.exists_of_list (hf : f.form = .list i) :
    ∃ rawItem, i.Rebuilt rawItem ∧ raw = .list [rawItem] := by
  obtain ⟨-, -, hi⟩ := form_eq_list.mp hf
  obtain ⟨rawItem, hitem⟩ := (hformed.item hi).exists_rebuilt
  exact ⟨rawItem, hitem, h.unique (rebuilt_list hformed hf hitem)⟩

theorem Rebuilt.exists_of_object (hf : f.form = .object fs) :
    ∃ raws, AllRebuilt fs raws ∧ raw = .map raws := by
  obtain ⟨-, -, hn⟩ := form_eq_object.mp hf
  obtain ⟨raws, hraws, hall⟩ :=
    exists_allRebuilt fun e he => (hformed.members hn e he).exists_rebuilt
  exact ⟨raws, hall, h.unique (rebuilt_object hformed hf hraws hall)⟩

end Inversion

theorem Rebuilt.rereads {f f' : Field} {raw : Value} (h : f.Rebuilt raw) {name : String}
    (hread : (Field.read name raw).result = .ok f') : f.Rereads := by
  by_contra hno
  obtain ⟨e, he⟩ := h.fails hno name
  rw [hread] at he
  cases he

/-! ## Survival -/

/-- The field comes back with its source, its type and its options. -/
structure Survives (f : Field) : Prop where
  rereads : f.Rereads
  source : f.KeepsSource
  /-- The type of a link is not written down. -/
  type : f.source = .link → f.type = if f.isListed then .array else .string
  /-- The options of a list are not rebuilt. -/
  options : ∀ i, f.form = .list i → f.options = []

theorem keptType_eq_iff (f : Field) : f.keptType = f.type ↔
    (f.source = .link → f.type = if f.isListed then .array else .string) := by
  by_cases hs : f.source = .link
  · have hf : f.form = .marked := form_eq_marked.mpr (Or.inl hs)
    simp only [keptType, hf, markedType, hs, if_true, true_implies]
    exact eq_comm
  · cases hf : f.form <;> simp [keptType, hf, markedType, hs]

theorem keptOptions_eq_iff (f : Field) : f.keptOptions = f.options ↔
    ∀ i, f.form = .list i → f.options = [] := by
  cases hf : f.form <;> simp [keptOptions, hf, eq_comm]

/-- A field under a marker survives, unless it is a link or a number in its text is too long. -/
theorem survives_of_marked {f : Field} (hf : f.form = .marked) (hs : f.source ≠ .link)
    (hl : f.Legible) : f.Survives := by
  refine ⟨.marked hf hl, .marked hf, fun h => absurd h hs, fun i hi => ?_⟩
  rw [hf] at hi
  cases hi

end Field

end Entity
