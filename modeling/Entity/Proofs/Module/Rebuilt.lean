import Entity.Proofs.Field.Payload
import Entity.Proofs.Module.Tables
import Entity.Proofs.Serialized.Classification

/-!
# Modules of rebuilt definitions

A definition is serialized, rebuilt and made into a module.  Main statements: a field has the same
entries as before exactly when its code is kept, and the tables of the module are those of the
definition itself exactly when the code of every field is kept.
-/

namespace Entity

open Entity.Text Entity.Module

/-! ## Fields that keep their code -/

namespace Field

/-- The function that selects the instances of a link. -/
def selector? (f : Field) : Option Computation := f.cascade.bind Cascade.selector

/-- A field that is rebuilt under a marker keeps its code. -/
structure KeepsOwnCode (f : Field) : Prop where
  legible : f.Legible
  /-- There is a computation; the text that takes the place of unknown code is empty. -/
  computed : f.source = .compute →
    ∃ c, f.compute = some c ∧ (nonEmpty? c.text? = none → f.literal = "")
  /-- The code of a function that selects instances is known. -/
  selected : ∀ s, f.selector? = some s → nonEmpty? s.text? ≠ none
  /-- Without such a function, the text of the cascade reads back with the same condition. -/
  conditioned : f.selector? = none →
    ∀ c, f.ReadsBack c → c.bind condition? = f.cascade.bind condition?

/-- A field keeps its code; an object has none, but must be read again. -/
inductive KeepsCode : Field → Prop
  | marked {f : Field} (hf : f.form = .marked) (h : f.KeepsOwnCode) : KeepsCode f
  | list {f i : Field} (hf : f.form = .list i) (h : KeepsCode i) : KeepsCode f
  | object {f : Field} {fs : List (String × Field)} (hf : f.form = .object fs)
      (h : f.Rereads) : KeepsCode f

theorem KeepsCode.rereads {f : Field} (h : f.KeepsCode) : f.Rereads := by
  induction h with
  | marked hf h => exact .marked hf h.legible
  | list hf _ ih => exact .list hf ih
  | object _ h => exact h

section Forms

variable {f i : Field}

theorem keepsCode_iff_of_marked (hf : f.form = .marked) : f.KeepsCode ↔ f.KeepsOwnCode := by
  constructor
  · intro h
    cases h with
    | marked _ h => exact h
    | list hf' | object hf' => simp [hf] at hf'
  · exact .marked hf

theorem keepsCode_iff_of_list (hf : f.form = .list i) : f.KeepsCode ↔ i.KeepsCode := by
  constructor
  · intro h
    cases h with
    | list hf' h =>
        rw [hf] at hf'
        cases hf'
        exact h
    | marked hf' | object hf' => simp [hf] at hf'
  · exact .list hf

end Forms

/-! ### Fields that do -/

/-- A computation whose code is known is kept. -/
theorem keepsOwnCode_of_code {f : Field} {c : Computation} (hs : f.source = .compute)
    (hcascade : f.cascade = none) (hcompute : f.compute = some c)
    (hcode : nonEmpty? c.text? ≠ none) : f.KeepsOwnCode := by
  have hreads : f.ReadsBack none := by simp only [ReadsBack, hs]
  refine ⟨f.legible_iff.mpr ⟨none, hreads⟩, ?_, ?_, ?_⟩
  · intro _
    exact ⟨c, hcompute, fun hnone => absurd hnone hcode⟩
  · simp [selector?, hcascade]
  · intro _ c' hc'
    rw [← hreads.unique hc', hcascade]

/-- A link whose cascade is canonical, in a list or not, keeps its condition. -/
theorem keepsOwnCode_of_canonical {f : Field} {c : Cascade} {listed : Bool}
    (hs : f.source = .link) (hcascade : f.cascade = some { c with isArray := listed })
    (h : c.Canonical) : f.KeepsOwnCode := by
  have hliteral : f.literal = c.toGrammar := by
    simp only [literal, hcascade]
    rfl
  have hreads := readsBack_of_canonical hs hliteral h
  refine ⟨f.legible_iff.mpr ⟨_, hreads⟩, by simp [hs], ?_, ?_⟩
  · simp [selector?, hcascade, h.selector]
  · intro _ c' hc'
    rw [← hreads.unique hc', hcascade]
    rfl

/-! ## Entries of a field -/

/-- The field has the entries of another, under every name. -/
structure SameEntries (f f' : Field) : Prop where
  compute : ∀ name, computeEntry name f' = computeEntry name f
  filter : ∀ name, filterEntry name f' = filterEntry name f

/-- The two fields have entries under a name, or none, and these are the same. -/
structure AgreesAt (name : String) (f f' : Field) : Prop where
  compute : ∃ o, (computeEntry name f).result = .ok o ∧ (computeEntry name f').result = .ok o
  filter : ∃ o, (filterEntry name f).result = .ok o ∧ (filterEntry name f').result = .ok o

section Entries

variable {f g : Field}

theorem computeEntry_of_ne (h : f.source ≠ .compute) (name : String) :
    computeEntry name f = return none := by
  have hfunction : ∀ c, f.function? ≠ some (.computation c) := by
    intro c hc
    unfold function? at hc
    split at hc
    · exact h ‹_›
    · cases hc
    · cases hc
  unfold computeEntry
  split
  · exact absurd ‹_› (hfunction _)
  · rfl

theorem computeEntry_of_compute (h : f.source = .compute) (name : String) :
    computeEntry name f = match f.compute with
      | some c => some <$> Entry.ofCode .compute name c.text?
      | none => return none := by
  unfold computeEntry function?
  rw [h]
  cases f.compute <;> rfl

/-- The entry of a computation depends on the source and the computation only. -/
theorem computeEntry_congr (hsource : f.source = g.source) (hcompute : f.compute = g.compute)
    (name : String) : computeEntry name f = computeEntry name g := by
  by_cases h : g.source = .compute
  · rw [computeEntry_of_compute h, computeEntry_of_compute (hsource.trans h), hcompute]
  · rw [computeEntry_of_ne h, computeEntry_of_ne (by rwa [hsource])]

theorem filterEntry_of_selector (name : String) {s : Computation} (h : f.selector? = some s) :
    filterEntry name f = some <$> Entry.ofCode .filter name s.text? := by
  obtain ⟨c, hc, hs⟩ := Option.bind_eq_some_iff.mp h
  simp only [filterEntry, hc, ofLink_eq, hs]

theorem filterEntry_of_selector_none (name : String) (h : f.selector? = none) :
    filterEntry name f = return (f.cascade.bind condition?).map Entry.ofCondition := by
  cases hc : f.cascade with
  | none => simp only [filterEntry, hc, Option.bind_none, Option.map_none]
  | some c =>
      have hs : c.selector = none := by simpa [selector?, hc] using h
      simp only [filterEntry, hc, ofLink_eq, hs, Option.bind_some]

/-- Where a cascade is declared makes no difference to its entry. -/
theorem filterEntry_congr (h : f.cascade = g.cascade.map fun c => { c with isArray := true })
    (name : String) : filterEntry name f = filterEntry name g := by
  unfold filterEntry
  rw [h]
  cases g.cascade <;> rfl

end Entries

/-! ## Fields under a marker -/

section Marked

variable {f f' : Field}

theorem code?_eq_of_cascade_none (h : f.cascade = none) :
    f.code? = f.compute.bind Computation.text? := by
  rw [code?, h]
  rfl

theorem code?_eq_of_compute_none (h : f.compute = none) :
    f.code? = f.selector?.bind Computation.text? := by
  rw [code?, h, Option.or_none]
  rfl

/-- A condition says nothing of where the cascade is declared and of what selects its instances. -/
theorem condition?_recast (f : Field) (c : Cascade) : condition? (f.recast c) = condition? c := by
  unfold recast
  split <;> rfl

variable (hc : f.Carries fun _ => True) (hb : f.GivesBack f')
include hc hb

/-- Without code the field comes back without a function that selects instances. -/
theorem GivesBack.selector?_eq_none (h : nonEmpty? (f.selector?.bind Computation.text?) = none) :
    f'.selector? = none := by
  obtain ⟨c, hreads, hcascade⟩ := hb.cascade
  rw [selector?, hcascade]
  cases c with
  | none => rfl
  | some c =>
      rw [Option.map_some, Option.bind_some, recast]
      split
      · rename_i hs
        rw [code?_eq_of_compute_none (hc.compute_eq_none (by simp [hs])), h]
        rfl
      · exact hreads.selector

/-- The code of a function that selects instances comes back, since the text of a cascade reads back
as a cascade, which takes the code. -/
theorem GivesBack.selector?_eq_some {s : Computation} (hs : f.selector? = some s) {text : String}
    (htext : nonEmpty? s.text? = some text) : f'.selector? = some (.code text) := by
  obtain ⟨c₀, hc₀, hselector⟩ := Option.bind_eq_some_iff.mp hs
  have hlink : f.source = .link := hc.selector c₀ hc₀ (by simp [hselector])
  have hcode : nonEmpty? f.code? = some text := by
    rw [code?_eq_of_compute_none (hc.compute_eq_none (by simp [hlink])), hs, Option.bind_some,
      htext]
  obtain ⟨c, hreads, hcascade⟩ := hb.cascade
  have hsome : c.isSome := by
    have hliteral : f.literal = c₀.toGrammar := by simp only [literal, hc₀]
    simp only [ReadsBack, hlink, hliteral] at hreads
    obtain ⟨text', htext', hread⟩ := hreads
    exact isSome_of_linkText (trimmed_toGrammar_ne_empty c₀) htext' hread
  obtain ⟨c, rfl⟩ := Option.isSome_iff_exists.mp hsome
  rw [selector?, hcascade, Option.map_some, Option.bind_some, recast, if_pos hlink, hcode]
  rfl

/-- Without code what comes back has the condition of the text that is read again. -/
theorem GivesBack.filterEntry_eq (h : nonEmpty? (f.selector?.bind Computation.text?) = none)
    {c : Option Cascade} (hreads : f.ReadsBack c) (name : String) :
    filterEntry name f' = return (c.bind condition?).map Entry.ofCondition := by
  rw [filterEntry_of_selector_none name (hb.selector?_eq_none hc h)]
  obtain ⟨c', hreads', hcascade⟩ := hb.cascade
  obtain rfl := hreads.unique hreads'
  rw [hcascade]
  cases c with
  | none => rfl
  | some c => rw [Option.map_some, Option.bind_some, Option.bind_some, condition?_recast]

/-! ### Entries that come back -/

/-- The entry of a computation comes back, if its code is known or no other text takes its place. -/
theorem computeEntry_of_keeps (h : f.KeepsOwnCode) (name : String) :
    computeEntry name f' = computeEntry name f := by
  by_cases hs : f.source = .compute
  · obtain ⟨c, hcompute, hliteral⟩ := h.computed hs
    have hcascade := hc.cascade_eq_none (by simp [hs]) (by simp [hs])
    rw [computeEntry_of_compute hs, computeEntry_of_compute (hb.source.trans hs), hb.compute hs,
      hcompute, code?_eq_of_cascade_none hcascade, hcompute, Option.bind_some]
    refine congrArg (some <$> ·) (ofCode_congr _ _ ?_)
    cases htext : nonEmpty? c.text? with
    | none =>
        rw [Option.getD_none, hliteral htext]
        rfl
    | some text =>
        rw [Option.getD_some, Computation.text?, ← htext, nonEmpty?_nonEmpty?]
  · rw [computeEntry_of_ne hs, computeEntry_of_ne (by rwa [hb.source])]

/-- The filter comes back, from the code of its function or from the text of its cascade. -/
theorem filterEntry_of_keeps (h : f.KeepsOwnCode) (name : String) :
    filterEntry name f' = filterEntry name f := by
  cases hs : f.selector? with
  | none =>
      obtain ⟨c, hreads⟩ := f.legible_iff.mp h.legible
      rw [filterEntry_of_selector_none name hs, hb.filterEntry_eq hc (by rw [hs]; rfl) hreads,
        h.conditioned hs c hreads]
  | some s =>
      obtain ⟨text, htext⟩ := Option.ne_none_iff_exists'.mp (h.selected s hs)
      rw [filterEntry_of_selector name hs,
        filterEntry_of_selector name (hb.selector?_eq_some hc hs htext)]
      refine congrArg (some <$> ·) (ofCode_congr _ _ ?_)
      rw [Computation.text?, ← htext, nonEmpty?_nonEmpty?]

/-! ### Entries that agree -/

/-- A computation that has the entry of what comes back is there, and where its code is not known
no text takes its place. -/
theorem computed_of_agree (hs : f.source = .compute) {name : String} {o : Option Entry}
    (ho : (computeEntry name f).result = .ok o) (ho' : (computeEntry name f').result = .ok o) :
    ∃ c, f.compute = some c ∧ (nonEmpty? c.text? = none → f.literal = "") := by
  have hcascade := hc.cascade_eq_none (by simp [hs]) (by simp [hs])
  rw [computeEntry_of_compute hs] at ho
  rw [computeEntry_of_compute (hb.source.trans hs), hb.compute hs,
    code?_eq_of_cascade_none hcascade, Outcome.result_map, map_eq_ok] at ho'
  obtain ⟨e, he, rfl⟩ := ho'
  cases hcompute : f.compute with
  | none =>
      rw [hcompute] at ho
      cases ho
  | some c =>
      refine ⟨c, rfl, fun htext => ?_⟩
      -- the entry of missing code cannot be the entry of the text that takes its place
      by_contra hliteral
      rw [hcompute] at ho he
      rw [Option.bind_some, htext, Option.getD_none] at he
      rw [Outcome.result_map, result_ofCode_missing _ _ htext] at ho
      cases ho
      exact ne_unavailable_of_ofCode hliteral he rfl

/-- Without code for its function a filter does not come back. -/
theorem selected_of_agree {s : Computation} (hs : f.selector? = some s) {name : String}
    {o : Option Entry} (ho : (filterEntry name f).result = .ok o)
    (ho' : (filterEntry name f').result = .ok o) : nonEmpty? s.text? ≠ none := by
  intro htext
  obtain ⟨c, hreads, -⟩ := hb.cascade
  rw [filterEntry_of_selector name hs, Outcome.result_map, result_ofCode_missing _ _ htext] at ho
  cases ho
  rw [hb.filterEntry_eq hc (by rw [hs]; exact htext) hreads, Outcome.result_pure] at ho'
  -- what comes back is a condition or nothing, and neither raises
  obtain ⟨code, -, hcode⟩ := Option.map_eq_some_iff.mp (Except.ok.inj ho')
  exact ofCondition_ne_unavailable code name hcode

/-- Without a function that selects instances, only the same condition makes the same filter. -/
theorem conditioned_of_agree (hs : f.selector? = none) {c : Option Cascade}
    (hreads : f.ReadsBack c) {name : String} {o : Option Entry}
    (ho : (filterEntry name f).result = .ok o) (ho' : (filterEntry name f').result = .ok o) :
    c.bind condition? = f.cascade.bind condition? := by
  rw [filterEntry_of_selector_none name hs, Outcome.result_pure] at ho
  rw [hb.filterEntry_eq hc (by rw [hs]; rfl) hreads, Outcome.result_pure] at ho'
  cases ho
  exact Option.map_injective (fun _ _ => ofCondition_inj) (Except.ok.inj ho')

/-- Where the entries agree, the code is kept. -/
theorem keepsOwnCode_of_agrees (hl : f.Legible) {name : String} (h : AgreesAt name f f') :
    f.KeepsOwnCode := by
  obtain ⟨⟨o, ho, ho'⟩, p, hp, hp'⟩ := h
  refine ⟨hl, ?_, ?_, ?_⟩
  · intro hs
    exact computed_of_agree hc hb hs ho ho'
  · intro s hs
    exact selected_of_agree hc hb hs hp hp'
  · intro hs c hreads
    exact conditioned_of_agree hc hb hs hreads hp hp'

end Marked

/-! ## All forms -/

/-- The second field has the entries of the first exactly if the first keeps its code; where their
entries agree under one name, it keeps it. -/
structure Returns (f f' : Field) : Prop where
  same : f.KeepsCode → f.SameEntries f'
  keeps : ∀ name, AgreesAt name f f' → f.KeepsCode

/-- A field that is neither computed nor has a cascade has no entries. -/
theorem entries_eq_none {f : Field} (hs : f.source ≠ .compute) (hc : f.cascade = none)
    (name : String) : computeEntry name f = pure none ∧ filterEntry name f = pure none := by
  refine ⟨computeEntry_of_ne hs name, ?_⟩
  simp only [filterEntry, hc]

theorem returns_of_marked {f f' : Field} (h : f.Formed) (hc : f.Carries fun _ => True)
    (hf : f.form = .marked) {name : String}
    (hread : (Field.read name (.map f.markedEntries)).result = .ok f') : f.Returns f' := by
  obtain ⟨hl, hback⟩ := givesBack_of_read h hread
  constructor
  · intro hk
    have hk := (keepsCode_iff_of_marked hf).mp hk
    exact ⟨computeEntry_of_keeps hc hback hk, filterEntry_of_keeps hc hback hk⟩
  · intro name hagrees
    exact .marked hf (keepsOwnCode_of_agrees hc hback hl hagrees)

/-- A list has the entries of its element. -/
theorem Returns.ofElement {f i i' : Field} (h : i.Returns i') (hf : f.form = .list i)
    (hm : i.Mirrors f) (name : String) (shared : Bool) :
    f.Returns (.ofElement name shared i') := by
  obtain ⟨hlink, -, -⟩ := form_eq_list.mp hf
  -- both lists copy from their elements whatever an entry is made of
  have hcompute : ∀ n, computeEntry n f = computeEntry n i :=
    computeEntry_congr hm.source.symm hm.compute.symm
  have hfilter : ∀ n, filterEntry n f = filterEntry n i := filterEntry_congr (hm.cascade hlink)
  have hcompute' : ∀ n, computeEntry n (.ofElement name shared i') = computeEntry n i' :=
    computeEntry_congr rfl rfl
  have hfilter' : ∀ n, filterEntry n (.ofElement name shared i') = filterEntry n i' :=
    filterEntry_congr rfl
  constructor
  · intro hk
    have hsame := h.same ((keepsCode_iff_of_list hf).mp hk)
    constructor
    · intro n
      rw [hcompute, hcompute', hsame.compute]
    · intro n
      rw [hfilter, hfilter', hsame.filter]
  · rintro n ⟨hagree, hagree'⟩
    rw [hcompute, hcompute'] at hagree
    rw [hfilter, hfilter'] at hagree'
    exact .list hf (h.keeps n ⟨hagree, hagree'⟩)

/-- An object has no entries, and neither has what comes back for it. -/
theorem returns_of_object {f f' : Field} (hc : f.Carries fun _ => True)
    {fs : List (String × Field)} (hf : f.form = .object fs) (hr : f.Rereads)
    (hs' : f'.source ≠ .compute) (hc' : f'.cascade = none) : f.Returns f' := by
  obtain ⟨hs, -, hn⟩ := form_eq_object.mp hf
  have hnone := entries_eq_none (f := f) (by simp [hs]) (hc.nested (by simp [hn]))
  have hnone' := entries_eq_none hs' hc'
  constructor
  · intro _
    constructor
    · intro n
      rw [(hnone n).1, (hnone' n).1]
    · intro n
      rw [(hnone n).2, (hnone' n).2]
  · intro _ _
    exact .object hf hr

/-- **What comes back of the entries of a field.** -/
theorem Formed.returns {f : Field} (h : f.Formed) (ht : f.Throughout (Carries fun _ => True))
    {raw : Value} (hraw : f.Rebuilt raw) {name : String} {f' : Field}
    (hread : (Field.read name raw).result = .ok f') : f.Returns f' := by
  have hformed := h
  -- by induction over the element; of nested fields nothing is needed
  induction h generalizing raw name f' with
  | @intro f _ _ _ _ _ item _ _ ihitem =>
      cases hf : f.form with
      | marked =>
          obtain rfl := hraw.eq_of_marked hformed hf
          exact returns_of_marked hformed ht.here hf hread
      | list i =>
          obtain ⟨-, -, hi⟩ := form_eq_list.mp hf
          obtain ⟨rawItem, hitem, rfl⟩ := hraw.exists_of_list hformed hf
          simp only [Field.read, Outcome.result_map, map_eq_ok] at hread
          obtain ⟨i', hi', rfl⟩ := hread
          exact (ihitem i hi (ht.item hi) hitem hi' (item i hi)).ofElement hf
            (ht.here.item i hi) name _
      | object fs =>
          obtain ⟨-, -, hn⟩ := form_eq_object.mp hf
          obtain ⟨raws, hall, rfl⟩ := hraw.exists_of_object hformed hf
          have hr := hraw.rereads hread
          rw [read_rebuilt hall (hformed.unreserved hn)] at hread
          -- the mapping is read as one prompt or field by field
          split at hread
          · cases hread
            exact returns_of_object ht.here hf hr (by simp) rfl
          · rw [Outcome.result_bind, bind_eq_ok] at hread
            obtain ⟨fs', -, hread⟩ := hread
            cases hread
            exact returns_of_object ht.here hf hr (by simp) rfl

/-- The fields that come back for fields, in order and under the same names. -/
def AllReturn (fs fs' : List (String × Field)) : Prop :=
  List.Forall₂ (fun e e' => e'.1 = e.1 ∧ e.2.Returns e'.2) fs fs'

theorem AllRebuilt.allReturn {fs fs' : List (String × Field)} {raws : List (String × Value)}
    (h : AllRebuilt fs raws) (hreads : AllRead raws fs') (hformed : ∀ e ∈ fs, e.2.Formed)
    (ht : ∀ e ∈ fs, e.2.Throughout (Carries fun _ => True)) : AllReturn fs fs' := by
  induction h generalizing fs' with
  | nil =>
      cases hreads
      exact .nil
  | @cons e r fs raws hr _ ih =>
      cases hreads with
      | cons he hrest =>
          have hreturns := (hformed e (by simp)).returns (ht e (by simp)) hr.2 he.2
          refine .cons ⟨he.1.trans hr.1, hreturns⟩ (ih hrest ?_ ?_)
          · exact fun e he => hformed e (by simp [he])
          · exact fun e he => ht e (by simp [he])

theorem AllReturn.gathered_eq {fs fs' : List (String × Field)} (h : AllReturn fs fs')
    (hk : ∀ e ∈ fs, e.2.KeepsCode) : gathered computeEntry fs' = gathered computeEntry fs ∧
      gathered filterEntry fs' = gathered filterEntry fs := by
  have hsame : List.Forall₂ (fun e e' => e'.1 = e.1 ∧ e.2.SameEntries e'.2) fs fs' := by
    induction h with
    | nil => exact .nil
    | cons he _ ih =>
        exact .cons ⟨he.1, he.2.same (hk _ (by simp))⟩ (ih fun e he => hk e (by simp [he]))
  constructor
  · exact gathered_congr (hsame.imp fun e e' he => ⟨he.1, he.2.compute e.1⟩)
  · exact gathered_congr (hsame.imp fun e e' he => ⟨he.1, he.2.filter e.1⟩)

/-- Tables that are the same show that the code of every field is kept. -/
theorem AllReturn.keepsCode {fs fs' : List (String × Field)} (h : AllReturn fs fs')
    (hnodup : (Entries.keys fs).Nodup) {computes filters : List (String × Entry)}
    (hcompute : (gathered computeEntry fs).result = .ok computes)
    (hcompute' : (gathered computeEntry fs').result = .ok computes)
    (hfilter : (gathered filterEntry fs).result = .ok filters)
    (hfilter' : (gathered filterEntry fs').result = .ok filters) :
    ∀ e ∈ fs, e.2.KeepsCode := by
  -- both tables are read off field by field, which leaves one agreement for each field
  have hnames := h.imp fun e e' he => he.1
  have hcomputes := forall₂_of_gathered_eq hnames hnodup hcompute hcompute'
  have hfilters := forall₂_of_gathered_eq hnames hnodup hfilter hfilter'
  clear hcompute hcompute' hfilter hfilter' hnames hnodup
  induction h with
  | nil => simp
  | @cons e e' fs fs' he _ ih =>
      obtain ⟨hc, hcs⟩ := List.forall₂_cons.mp hcomputes
      obtain ⟨hf, hfs⟩ := List.forall₂_cons.mp hfilters
      exact List.forall_mem_cons.mpr ⟨he.2.keeps e.1 ⟨hc, hf⟩, ih hcs hfs⟩

end Field

/-! ## Modules -/

namespace Definition

/-- The code of a definition that is read is gathered from its fields. -/
theorem code_eq_of_read {raw : Entries String Value} {d : Definition}
    (h : (Definition.read raw).result = .ok d) : code d = do
      let computes ← gathered computeEntry d.fields
      let filters ← gathered filterEntry d.fields
      return (computes, filters) := by
  obtain ⟨r, hr⟩ := exists_readFrom h
  rw [code, computeEntries_functions, hr.cascades, filterEntries_cascadesOf]

section Rebuilt

variable {raw : Entries String Value} {d d' : Definition}

theorem allReturn_of_rebuild (hraw : (Value.map raw).WellKeyed)
    (hd : (Definition.read raw).result = .ok d)
    (hd' : (Definition.rebuild (.map d.serialize)).result = .ok d') :
    Field.AllReturn d.fields d'.fields := by
  have hsound := sound_of_read hraw hd
  obtain ⟨raws, hall, hreads⟩ := hsound.exists_allRead_of_rebuild hd'
  exact hall.allReturn hreads hsound.fields.formed (throughout_of_read hd)

/-- If every field keeps its code, so does the definition. -/
theorem code_eq_of_keepsCode (hraw : (Value.map raw).WellKeyed)
    (hd : (Definition.read raw).result = .ok d) (hk : ∀ e ∈ d.fields, e.2.KeepsCode) :
    ∃ d', (Definition.rebuild (.map d.serialize)).result = .ok d' ∧ code d' = code d := by
  obtain ⟨-, d', -, hd', -⟩ :=
    (sound_of_read hraw hd).exists_allRead_rebuild fun e he => (hk e he).rereads
  obtain ⟨raw', -, hraw'⟩ := exists_read_of_rebuild hd'
  obtain ⟨hcomputes, hfilters⟩ := (allReturn_of_rebuild hraw hd hd').gathered_eq hk
  refine ⟨d', hd', ?_⟩
  rw [code_eq_of_read hraw', code_eq_of_read hd, hcomputes, hfilters]

/-- If both tables come back, every field keeps its code. -/
theorem keepsCode_of_code_eq (hraw : (Value.map raw).WellKeyed)
    (hd : (Definition.read raw).result = .ok d)
    (hd' : (Definition.rebuild (.map d.serialize)).result = .ok d')
    {tables : List (String × Entry) × List (String × Entry)}
    (htables : (code d).result = .ok tables) (htables' : (code d').result = .ok tables) :
    ∀ e ∈ d.fields, e.2.KeepsCode := by
  obtain ⟨raw', -, hraw'⟩ := exists_read_of_rebuild hd'
  rw [code_eq_of_read hd] at htables
  rw [code_eq_of_read hraw'] at htables'
  simp only [Outcome.result_bind, Outcome.result_pure, bind_eq_ok] at htables htables'
  obtain ⟨computes, hcomputes, filters, hfilters, htables⟩ := htables
  obtain ⟨computes', hcomputes', filters', hfilters', htables'⟩ := htables'
  cases htables
  cases htables'
  exact (allReturn_of_rebuild hraw hd hd').keepsCode (sound_of_read hraw hd).fields.nodup hcomputes
    hcomputes' hfilters hfilters'

end Rebuilt

/-- **When generated code survives serialization.**  A definition that is read, serialized and
rebuilt has the code that it had, with the same warnings, if every field keeps its code; and where
the code of the definition can be generated at all, it comes back only then. -/
theorem code_rebuild_iff {raw : Entries String Value} (hraw : (Value.map raw).WellKeyed)
    {d : Definition} (hd : (Definition.read raw).result = .ok d) :
    ((∀ e ∈ d.fields, e.2.KeepsCode) →
      ∃ d', (Definition.rebuild (.map d.serialize)).result = .ok d' ∧ code d' = code d) ∧
    ∀ tables, (code d).result = .ok tables →
      ((∃ d', (Definition.rebuild (.map d.serialize)).result = .ok d' ∧
        (code d').result = .ok tables) ↔ ∀ e ∈ d.fields, e.2.KeepsCode) := by
  refine ⟨code_eq_of_keepsCode hraw hd, fun tables htables => ⟨?_, ?_⟩⟩
  · rintro ⟨d', hd', htables'⟩
    exact keepsCode_of_code_eq hraw hd hd' htables htables'
  · intro hk
    obtain ⟨d', hd', hsame⟩ := code_eq_of_keepsCode hraw hd hk
    exact ⟨d', hd', by rw [hsame, htables]⟩

end Definition

/-! ### Code that survives -/

namespace Order

/-- The items of an order that are open. -/
def items : Cascade where
  operator := .outgoing
  target := "Item"
  filters := [⟨"open", .eq, .bool true⟩]

/-- A computation with code, and a link with a filter. -/
def raw : Entries String Value :=
  [("$type", .text "Order"), ("total", .map [("$compute", .text "price")]),
    ("items", .map [("$link", .text "-> Item[open=true]")])]

def definition : Definition where
  raw := raw
  type := "Order"
  id := none
  version := 1
  context := none
  parent := none
  seed := .null
  enrichments := []
  fields := [
    ("total", {
      name := "total"
      description := "price"
      source := .compute
      compute := some (.code "price") }),
    ("items", { name := "items", description := "Item", source := .link, cascade := some items })]
  cascades := [("items", items)]
  events := []
  schedules := []
  crons := []
  migrations := []

/-- The tables of the module: the code, compiled, and the filter. -/
def tables : List (String × Entry) × List (String × Entry) :=
  ([("total", { text := "(lambda record: _path(record, 'price'))" })],
    [("items", { text := "(lambda item, context=None: _match(item, 'open', '=', True))" })])

theorem wellKeyed_raw : (Value.map raw).WellKeyed := by
  refine .map (by decide) ?_
  simp only [raw, List.forall_mem_cons]
  refine ⟨.leaf rfl rfl, .map (by decide) ?_, .map (by decide) ?_, by simp⟩
  · simp only [List.forall_mem_cons]
    exact ⟨.leaf rfl rfl, by simp⟩
  · simp only [List.forall_mem_cons]
    exact ⟨.leaf rfl rfl, by simp⟩

theorem canonical_items : items.Canonical := by
  refine ⟨word_of_all (by decide) (by decide), ?_, ?_, ?_, ?_, ?_, rfl, rfl, rfl⟩
  · rintro p ⟨⟩
  · rintro r ⟨⟩
  · intro f hf
    obtain rfl := List.mem_singleton.mp hf
    exact ⟨word_of_all (by decide) (by decide), trivial⟩
  · rintro p ⟨⟩
  · rintro - p ⟨⟩

theorem keepsCode : ∀ e ∈ definition.fields, e.2.KeepsCode := by
  simp only [definition, List.forall_mem_cons]
  refine ⟨?_, ?_, by simp⟩
  · exact .marked rfl (Field.keepsOwnCode_of_code rfl rfl rfl (by decide))
  · exact .marked rfl (Field.keepsOwnCode_of_canonical rfl rfl canonical_items)

end Order

/-- The general statement for a computation with code and a link with a filter. -/
theorem code_rebuild_order : (Value.map Order.raw).WellKeyed ∧
    (Definition.read Order.raw).result = .ok Order.definition ∧
    (code Order.definition).result = .ok Order.tables ∧
    (∀ e ∈ Order.definition.fields, e.2.KeepsCode) ∧
    ∃ d', (Definition.rebuild (.map Order.definition.serialize)).result = .ok d' ∧
      (code d').result = .ok Order.tables := by
  have hread : (Definition.read Order.raw).result = .ok Order.definition := rfl
  have htables : (code Order.definition).result = .ok Order.tables := rfl
  have hiff := (Definition.code_rebuild_iff Order.wellKeyed_raw hread).2 Order.tables htables
  exact ⟨Order.wellKeyed_raw, hread, htables, Order.keepsCode, hiff.mpr Order.keepsCode⟩

/-! ### Code that does not survive -/

namespace Team

/-- A computation and a selection whose code is not known. -/
def raw : Entries String Value :=
  [("$type", .text "Team"), ("size", .function (.library .len)),
    ("lead", .map [("$link", .text "Person"), ("where", .function (.library .len))])]

/-- The person that the function selects. -/
def lead : Cascade where
  operator := .outgoing
  target := "Person"
  selector := some (.function (.library .len) none)

def definition : Definition where
  raw := raw
  type := "Team"
  id := none
  version := 1
  context := none
  parent := none
  seed := .null
  enrichments := []
  fields := [
    ("size", {
      name := "size"
      description := "size"
      source := .compute
      compute := some (.function (.library .len) none) }),
    ("lead", { name := "lead", description := "Person", source := .link, cascade := some lead })]
  cascades := [("lead", lead)]
  events := []
  schedules := []
  crons := []
  migrations := []

theorem wellKeyed_raw : (Value.map raw).WellKeyed := by
  refine .map (by decide) ?_
  simp only [raw, List.forall_mem_cons]
  refine ⟨.leaf rfl rfl, .leaf rfl rfl, .map (by decide) ?_, by simp⟩
  simp only [List.forall_mem_cons]
  exact ⟨.leaf rfl rfl, .leaf rfl rfl, by simp⟩

end Team

/-- What raises when it is called becomes code that runs, and a filter that raises is gone. -/
theorem code_rebuild_team : (Value.map Team.raw).WellKeyed ∧
    (Definition.read Team.raw).result = .ok Team.definition ∧
    (code Team.definition).result =
      .ok ([("size", unavailable "size" "")], [("lead", unavailable "lead" "")]) ∧
    ∃ d', (Definition.rebuild (.map Team.definition.serialize)).result = .ok d' ∧
      (code d').result = .ok ([("size", { text := "(lambda record: _path(record, 'size'))" })], []) :=
  ⟨Team.wellKeyed_raw, rfl, rfl, _, rfl, rfl⟩

end Entity
