import Entity.Proofs.Definition.Reading
import Entity.Proofs.Serialized.Metadata
import Entity.Proofs.Serialized.Raw
import Entity.Proofs.Value.CallableFree

/-!
# Definitions without functions

Main statements: the raw mapping that a serialized form without functions is rebuilt as has no
function either, and a definition that is read from such a mapping holds code texts in the place of
functions, at every depth of its fields, and no handlers.
-/

namespace Entity

open Entries Value

/-! ## Options -/

/-- The two parts of a pair are items of the value, or texts. -/
theorem callableFree_of_pairOf {v w : Value} (hv : v.CallableFree) {k : String}
    (h : pairOf v = .ok (k, w)) : w.CallableFree := by
  have hparts : ∃ parts : List Value, (∀ p ∈ parts, p.CallableFree) ∧ w ∈ parts := by
    cases v with
    | list items | tuple items =>
        refine ⟨items, hv.members, ?_⟩
        simp only [pairOf] at h
        split at h <;> simp_all
    | map entries =>
        refine ⟨entries.map fun e => .text e.1, List.forall_mem_map.mpr fun _ _ => ?_, ?_⟩
        · exact callableFree_text _
        · simp only [pairOf] at h
          split at h <;> simp_all
    | text s =>
        refine ⟨s.toList.map fun c => .text (String.ofList [c]),
          List.forall_mem_map.mpr fun _ _ => ?_, ?_⟩
        · exact callableFree_text _
        · simp only [pairOf] at h
          split at h <;> simp_all
    | _ => cases h
  obtain ⟨parts, hfree, hw⟩ := hparts
  exact hfree w hw

theorem allFree_of_mapM {α : Type} {f : α → Except Failure (String × Value)}
    {xs : List α} (hf : ∀ x ∈ xs, ∀ e, f x = .ok e → e.2.CallableFree)
    {es : List (String × Value)} (h : xs.mapM f = .ok es) : AllFree es := by
  induction xs generalizing es with
  | nil =>
      cases h
      exact allFree_nil
  | cons x xs ih =>
      rw [List.mapM_cons] at h
      obtain ⟨e, he, h⟩ := bind_eq_ok.mp h
      obtain ⟨es', hes', h⟩ := bind_eq_ok.mp h
      cases h
      exact allFree_cons.mpr ⟨hf x (by simp) e he, ih (fun x hx => hf x (by simp [hx])) hes'⟩

theorem allFree_of_optionEntries {v : Value} (hv : v.CallableFree)
    {options : Entries String Value} (h : optionEntries v = .ok options) : AllFree options := by
  unfold optionEntries at h
  split at h
  · cases h
    exact allFree_nil
  · split at h
    · cases h
      exact callableFree_map.mp hv
    · obtain ⟨es, hes, rfl⟩ := map_eq_ok.mp h
      exact (allFree_of_mapM (fun x hx e he =>
        callableFree_of_pairOf (hv.members x hx) he) hes).ofList
    · obtain ⟨es, hes, rfl⟩ := map_eq_ok.mp h
      exact (allFree_of_mapM (fun x hx e he =>
        callableFree_of_pairOf (hv.members x hx) he) hes).ofList
    · obtain ⟨es, hes, rfl⟩ := map_eq_ok.mp h
      exact (allFree_of_mapM (fun c _ e he =>
        callableFree_of_pairOf (callableFree_text _) he) hes).ofList
    · cases h

/-! ## Raw values -/

section Raw

variable {entry : Entries String Value}

theorem callableFree_firstTruthy {v : Value} (hv : v.CallableFree) {vs : List Value}
    (hvs : ∀ w ∈ vs, w.CallableFree) : (Value.firstTruthy v vs).CallableFree := by
  induction vs generalizing v with
  | nil => exact hv
  | cons w ws ih =>
      unfold Value.firstTruthy
      split
      · exact hv
      · exact ih (hvs w (by simp)) fun u hu => hvs u (by simp [hu])

theorem allFree_linkRaw (h : AllFree entry) {value : Value} (hvalue : value.CallableFree) :
    AllFree (linkRaw value entry) := by
  have hlink : (if (Value.lookup entry "array").isTruthy then Value.list [value]
      else value).CallableFree := by
    split
    · simpa using hvalue
    · exact hvalue
  have hwhere : AllFree (if (Value.lookup entry "code").isTruthy then
      [("where", Value.lookup entry "code")] else []) := by
    split
    · simpa using h.lookup "code"
    · exact allFree_nil
  exact allFree_append.mpr ⟨by simpa using hlink, hwhere⟩

theorem allFree_plainRaw (h : AllFree entry) {source type value : Value}
    (htype : type.CallableFree) (hvalue : value.CallableFree) {base : Entries String Value}
    (hbase : plainRaw source type value entry = .ok base) : AllFree base := by
  unfold plainRaw at hbase
  dsimp only at hbase
  split at hbase
  · cases hbase
    refine allFree_append.mpr ⟨allFree_append.mpr ⟨by simp [hvalue, htype], ?_⟩, ?_⟩
    · split
      · exact allFree_nil
      · simpa using h.lookup "schema"
    · split
      · exact allFree_nil
      · simpa using h.lookup "model"
  · cases hbase
    have hone : ∀ w ∈ [value], w.CallableFree := by simpa using hvalue
    have hcode := callableFree_firstTruthy (h.lookup "code") hone
    simp [hcode, htype]
  · split at hbase
    · obtain ⟨texts, -, hbase⟩ := bind_eq_ok.mp hbase
      cases hbase
      simp [htype]
    · split at hbase
      · cases hbase
        simp [hvalue, htype]
      · cases hbase
        simp
  · split at hbase
    · cases hbase
      simp
    · cases hbase

theorem callableFree_of_markedRaw (h : AllFree entry) {options : Entries String Value}
    (hoptions : AllFree options) {raw : Value} (hraw : markedRaw entry options = .ok raw) :
    raw.CallableFree := by
  have hvalue := h.lookup "value"
  have htype : (entryOr entry "type" (.text "string")).CallableFree :=
    h.getD "type" (callableFree_text _)
  unfold markedRaw at hraw
  dsimp only at hraw
  split at hraw
  · cases hraw
    exact callableFree_map.mpr ((allFree_linkRaw h hvalue).merge hoptions)
  · obtain ⟨base, hbase, hraw⟩ := bind_eq_ok.mp hraw
    cases hraw
    exact callableFree_map.mpr ((allFree_plainRaw h htype hvalue hbase).merge hoptions)

end Raw

/-- The raw values of a value and of its entries are free. -/
structure RawFree (v : Value) : Prop where
  raw : ∀ {raw : Value}, rawOf v = .ok raw → raw.CallableFree
  fields : ∀ {raws : List (String × Value)}, rawFields v = .ok raws → AllFree raws

theorem allFree_of_rawOfAll {es raws : List (String × Value)} (hes : ∀ e ∈ es, RawFree e.2)
    (h : rawOfAll es = .ok raws) : AllFree raws := by
  induction es generalizing raws with
  | nil =>
      rw [rawOfAll] at h
      cases h
      exact allFree_nil
  | cons e es ih =>
      rw [rawOfAll] at h
      obtain ⟨raw, hraw, h⟩ := bind_eq_ok.mp h
      obtain ⟨raws', hraws', h⟩ := bind_eq_ok.mp h
      cases h
      exact allFree_cons.mpr ⟨(hes e (by simp)).raw hraw,
        ih (fun e' he' => hes e' (by simp [he'])) hraws'⟩

/-- The raw value of a field entry takes nothing from outside of the entry. -/
theorem rawFree_map {entry : Entries String Value} (h : AllFree entry)
    (ih : ∀ e ∈ entry, RawFree e.2) : RawFree (.map entry) := by
  constructor
  · intro raw hraw
    rw [rawOf] at hraw
    obtain ⟨options, hoptions, hraw⟩ := bind_eq_ok.mp hraw
    have hfree := allFree_of_optionEntries (h.lookup "options") hoptions
    split at hraw
    · exact callableFree_of_markedRaw h hfree hraw
    · split at hraw
      · obtain ⟨item, hitem, hraw⟩ := bind_eq_ok.mp hraw
        cases hraw
        rw [Field.rawOfKey_eq] at hitem
        split at hitem
        · rename_i v hv
          simpa using (ih _ (mem_of_get?_eq_some hv)).raw hitem
        · cases hitem
      · split at hraw
        · obtain ⟨raws, hraws, hraw⟩ := bind_eq_ok.mp hraw
          cases hraw
          rw [Field.rawFieldsOfKey_eq] at hraws
          split at hraws
          · rename_i v hv
            exact callableFree_map.mpr ((ih _ (mem_of_get?_eq_some hv)).fields hraws)
          · cases hraws
        · exact callableFree_of_markedRaw h hfree hraw
  · intro raws hraws
    rw [rawFields] at hraws
    exact allFree_of_rawOfAll ih hraws

theorem rawFree_of_callableFree {v : Value} (h : v.CallableFree) : RawFree v := by
  induction v using Value.induct_members with
  | leaf v hmap _ =>
      constructor
      · intro raw hraw
        cases v <;> simp_all [rawOf, Value.map?]
      · intro raws hraws
        cases v <;> simp_all [rawFields, Value.map?]
  | list items =>
      constructor
      · intro raw hraw
        simp [rawOf] at hraw
      · intro raws hraws
        simp [rawFields] at hraws
  | tuple items =>
      constructor
      · intro raw hraw
        simp [rawOf] at hraw
      · intro raws hraws
        simp [rawFields] at hraws
  | map entries ih =>
      have hentries := callableFree_map.mp h
      exact rawFree_map hentries fun e he => ih e he (hentries e he)

/-- **Nothing is added.**  The raw mapping of a serialized form without functions has none. -/
theorem allFree_of_rebuiltRaw {v : Value} (hv : v.CallableFree) {raw : Entries String Value}
    (h : rebuiltRaw v = .ok raw) : AllFree raw := by
  obtain ⟨data, hdata, h⟩ := bind_eq_ok.mp h
  have hfree : AllFree data := by
    unfold documentEntries at hdata
    cases v with
    | map entries =>
        cases hdata
        exact callableFree_map.mp hv
    | _ => cases hdata
  have hmetadata : AllFree (metadataOf data) := by
    intro e he
    obtain ⟨key, -, hkey⟩ := List.mem_filterMap.mp he
    split at hkey
    · cases hkey
    · cases hkey
    · rename_i w _ hw
      cases hkey
      exact hfree.of_get? hw
  dsimp only at h
  split at h
  · cases h
    exact hmetadata.merge allFree_nil
  · obtain ⟨raws, hraws, h⟩ := bind_eq_ok.mp h
    cases h
    exact hmetadata.merge ((rawFree_of_callableFree (hfree.lookup "fields")).fields hraws)

/-! ## Fields -/

/-- The computation is code text. -/
def Computation.IsCode (c : Computation) : Prop := ∃ text, c = .code text

/-- What stands in the place of functions in a field is code text, and no function occurs in its
options and its schema. -/
structure Field.Coded (f : Field) : Prop where
  compute : ∀ c, f.compute = some c → c.IsCode
  selector : ∀ s, f.cascade.bind Cascade.selector = some s → s.IsCode
  schema : ∀ es, f.generation.bind Generation.schema = some es → AllFree es
  options : AllFree f.options

theorem isCode_of_ofValue? {v : Value} (hv : v.CallableFree) {c : Computation}
    (h : Computation.ofValue? v = some c) : c.IsCode := by
  cases v with
  | function f => exact absurd rfl (hv.ne_function f)
  | text s =>
      cases h
      exact ⟨s, rfl⟩
  | _ => cases h

namespace Field

theorem coded_ofInputText (name text : String) : (ofInputText name text).Coded := by
  unfold ofInputText
  split
  · constructor <;> simp
  · split <;> constructor <;> simp

/-- A text is code for nothing. -/
theorem coded_ofText {name text : String} {f : Field} (h : (ofText name text).result = .ok f) :
    f.Coded := by
  simp only [ofText, Outcome.result_bind, bind_eq_ok] at h
  obtain ⟨⟨description, cascade⟩, hread, h⟩ := h
  cases cascade with
  | some c =>
      cases h
      have hselector := selector_of_read hread
      constructor <;> simp [hselector]
  | none =>
      simp only at h
      split at h
      · cases h
        constructor <;> simp
      · split at h
        · cases h
          constructor <;> simp [Generation.ofPrompt]
        · cases h
          exact coded_ofInputText name text

theorem codedThroughout_ofText {name text : String} {f : Field}
    (h : (ofText name text).result = .ok f) : f.Throughout Coded :=
  throughout_of_flat (coded_ofText h) (flat_ofText h).item (flat_ofText h).nested

/-- A list shares computation, cascade and generation with its element. -/
theorem Throughout.codedElement {item : Field} (h : item.Throughout Coded) (name : String)
    (shared : Bool) : (Field.ofElement name shared item).Throughout Coded := by
  have hc := h.here
  refine .intro ⟨hc.compute, ?_, hc.schema, allFree_nil⟩ ?_ ?_
  · intro s hs
    refine hc.selector s ?_
    cases hcascade : item.cascade with
    | none => simp [Field.ofElement, hcascade] at hs
    | some c => simpa [Field.ofElement, hcascade] using hs
  · rintro _ ⟨⟩
    exact h
  · rintro _ ⟨⟩

/-! ### Markers -/

theorem codedThroughout_ofInput {name : String} {body : Value} {f : Field}
    (h : (ofInput name body).result = .ok f) : f.Throughout Coded := by
  unfold ofInput at h
  split at h
  · simp only [Outcome.result_bind, bind_eq_ok] at h
    obtain ⟨⟨description, cascade⟩, hread, h⟩ := h
    cases cascade with
    | some c =>
        cases h
        have hselector := selector_of_read hread
        refine throughout_of_flat ?_ rfl rfl
        constructor <;> simp [hselector]
    | none =>
        cases h
        have hflat := flat_ofInputText name
        exact throughout_of_flat (coded_ofInputText name _) (hflat _).item (hflat _).nested
  · cases h
    refine throughout_of_flat ?_ rfl rfl
    constructor <;> simp

/-- The schema of a generation is a mapping that was given for it. -/
theorem codedThroughout_ofGenerate {name : String} {schema model body : Value}
    (hschema : schema.CallableFree) (hbody : body.CallableFree) {f : Field}
    (h : ofGenerate name schema model body = .ok f) : f.Throughout Coded := by
  fun_induction ofGenerate name schema model body generalizing f with
  | case1 name entries =>
      obtain ⟨model, -, h⟩ := bind_eq_ok.mp h
      cases h
      refine throughout_of_flat ?_ rfl rfl
      have hentries := callableFree_map.mp hbody
      constructor <;> simp [Generation.ofSchema, hentries]
  | case2 name element ih | case3 name element ih =>
      obtain ⟨item, hitem, rfl⟩ := map_eq_ok.mp h
      have hfree : element.CallableFree := hbody.members element (by simp [Value.members])
      have hcoded := ih hfree hitem
      have hc := hcoded.here
      refine .intro ⟨hc.compute, hc.selector, hc.schema, hc.options⟩ ?_ ?_
      · rintro _ ⟨⟩
        exact hcoded
      · exact fun fs hfs => hcoded.nested hfs
  | case4 name body =>
      cases h
      refine throughout_of_flat ?_ rfl rfl
      constructor
      case schema =>
        intro es hes
        cases schema with
        | map es' =>
            cases hes
            exact callableFree_map.mp hschema
        | _ => cases hes
      all_goals simp [ofGeneratedText]

theorem codedThroughout_ofCompute {name : String} {body : Value} (hbody : body.CallableFree)
    {f : Field} (h : (ofCompute name body).result = .ok f) : f.Throughout Coded := by
  unfold ofCompute at h
  split at h
  · rename_i c hc
    cases h
    refine throughout_of_flat ?_ rfl rfl
    have hcode := isCode_of_ofValue? hbody hc
    constructor <;> simp [hcode]
  · rw [result_degraded] at h
    cases h
    refine throughout_of_flat ?_ rfl rfl
    constructor <;> simp

theorem codedThroughout_ofAggregateText {name text : String} {f : Field}
    (h : (ofAggregateText name text).result = .ok f) : f.Throughout Coded := by
  unfold ofAggregateText at h
  split at h
  · rw [result_degraded] at h
    cases h
    refine throughout_of_flat ?_ rfl rfl
    constructor <;> simp
  · split at h
    · cases h
      refine throughout_of_flat ?_ rfl rfl
      constructor <;> simp [ofAggregate]
    · cases h

/-- What selects the instances of a link is what was given for it. -/
theorem Throughout.codedSelector {f : Field} (h : f.Throughout Coded)
    {selector : Option Computation} (hselector : ∀ s, selector = some s → s.IsCode) :
    (f.withSelector selector).Throughout Coded := by
  cases selector with
  | none => exact h
  | some s =>
      have hc := h.here
      refine .intro ⟨hc.compute, ?_, hc.schema, hc.options⟩ (fun i hi => h.item hi)
        (fun fs hfs => h.nested hfs)
      intro s' hs'
      obtain ⟨c, hc, hs'⟩ := Option.bind_eq_some_iff.mp hs'
      obtain ⟨c', -, rfl⟩ := Option.map_eq_some_iff.mp hc
      cases hs'
      exact hselector s rfl

theorem codedThroughout_ofLink {name : String} {body selector : Value}
    (hselector : selector.CallableFree) {f : Field}
    (h : (ofLink name body selector).result = .ok f) : f.Throughout Coded := by
  obtain ⟨text, g, hg, hf⟩ := exists_of_ofLink h
  rcases hf with ⟨-, rfl⟩ | ⟨issue, rfl⟩
  · have hcode : ∀ s, Computation.ofValue? selector = some s → s.IsCode :=
      fun s hs => isCode_of_ofValue? hselector hs
    rcases hg with hg | ⟨item, hitem, rfl⟩
    · exact (codedThroughout_ofText hg).codedSelector hcode
    · exact ((codedThroughout_ofText hitem).codedElement name true).codedSelector hcode
  · refine throughout_of_flat ?_ rfl rfl
    constructor <;> simp

theorem codedThroughout_ofMarker {name : String} {source : Source} {body : Value}
    {entries : Entries String Value} (hentries : AllFree entries) (hbody : body.CallableFree)
    {f : Field} (h : (ofMarker name source body entries).result = .ok f) : f.Throughout Coded := by
  cases source with
  | input => exact codedThroughout_ofInput h
  | generate => exact codedThroughout_ofGenerate (hentries.lookup "schema") hbody h
  | compute => exact codedThroughout_ofCompute hbody h
  | sync =>
      cases h
      refine throughout_of_flat ?_ rfl rfl
      constructor <;> simp [ofSync]
  | aggregate => exact codedThroughout_ofAggregateText h
  | fuzzy =>
      cases h
      refine throughout_of_flat ?_ rfl rfl
      constructor <;> simp
  | link => exact codedThroughout_ofLink (hentries.lookup "where") h

/-! ### All values -/

theorem codedThroughout_of_items {name : String} {items : List Value} {v : Value} {f : Field}
    (hv : v.items? = some items)
    (ih : ∀ v ∈ items, ∀ {name : String} {f : Field}, (read name v).result = .ok f →
      f.Throughout Coded)
    (h : (read name v).result = .ok f) : f.Throughout Coded := by
  rcases read_items_cases hv name with ⟨element, rfl, hread⟩ | ⟨-, hread⟩
  · rw [hread, Outcome.result_map] at h
    obtain ⟨item, hread, rfl⟩ := map_eq_ok.mp h
    exact (ih element (by simp) hread).codedElement name _
  · rw [hread, ofWrongLength, result_degraded] at h
    cases h
    refine throughout_of_flat ?_ rfl rfl
    constructor <;> simp

theorem codedThroughout_of_leaf {v : Value} (hv : v.CallableFree) (hmap : v.map? = none)
    (hitems : v.items? = none) {name : String} {f : Field} (h : (read name v).result = .ok f) :
    f.Throughout Coded := by
  cases v with
  | list | tuple | map => simp [Value.map?, Value.items?] at hmap hitems
  | function g => exact absurd rfl (hv.ne_function g)
  | query target predicate => cases hv.here
  | text s => exact codedThroughout_ofText (by simpa [read] using h)
  | ref path =>
      simp only [read, ofRef] at h
      split at h
      · rw [result_degraded] at h
        cases h
        refine throughout_of_flat ?_ rfl rfl
        constructor <;> simp
      · split at h <;>
        · cases h
          refine throughout_of_flat ?_ rfl rfl
          constructor <;> simp
  | _ =>
      simp only [read, ofUnsupported, result_degraded] at h
      cases h
      refine throughout_of_flat ?_ rfl rfl
      constructor <;> simp [ofAggregate]

theorem mem_of_marker? {entries : Entries String Value} {key : String} {source : Source}
    {body : Value} (h : marker? entries = some (key, source, body)) : (key, body) ∈ entries := by
  induction entries with
  | nil => cases h
  | cons e entries ih =>
      rw [marker?] at h
      split at h
      · cases h
        exact List.mem_cons_self
      · exact List.mem_cons_of_mem _ (ih h)

theorem codedThroughout_of_map {entries : Entries String Value} (hentries : AllFree entries)
    (ih : ∀ e ∈ entries, ∀ {name : String} {f : Field}, (read name e.2).result = .ok f →
      f.Throughout Coded)
    {name : String} {f : Field} (h : (read name (.map entries)).result = .ok f) :
    f.Throughout Coded := by
  simp only [read] at h
  split at h
  · rename_i key source body hmarker
    obtain ⟨g, description, type, issues, hg, rfl⟩ := exists_ofMarker_of_ofMarked h
    have hbody : body.CallableFree := hentries _ (mem_of_marker? hmarker)
    have hcoded := codedThroughout_ofMarker hentries hbody hg
    have hc := hcoded.here
    -- the keys beside the marker are what the options are taken from
    have hoptions : AllFree (optionsOf entries) :=
      hentries.of_subset List.filter_sublist.subset
    exact .intro ⟨hc.compute, hc.selector, hc.schema, hoptions⟩ (fun i hi => hcoded.item hi)
      (fun fs hfs => hcoded.nested hfs)
  · split at h
    · obtain ⟨model, -, h⟩ := bind_eq_ok.mp h
      cases h
      refine throughout_of_flat ?_ rfl rfl
      constructor
      case schema =>
        intro es hes
        have hfree := hentries.lookup "schema"
        change (Value.lookup entries "schema").map? = some es at hes
        cases hs : Value.lookup entries "schema" with
        | map es' =>
            rw [hs] at hfree hes
            cases hes
            exact callableFree_map.mp hfree
        | _ =>
            rw [hs] at hes
            cases hes
      all_goals simp
    · split at h
      · cases h
        refine throughout_of_flat ?_ rfl rfl
        constructor <;> simp [Generation.ofSchema, hentries]
      · simp only [Outcome.result_bind, bind_eq_ok] at h
        obtain ⟨fs, hfs, h⟩ := h
        cases h
        refine .intro ?_ ?_ ?_
        · constructor <;> simp
        · rintro _ ⟨⟩
        · rintro _ ⟨⟩ e he
          obtain ⟨-, v, hv, hread⟩ := exists_mem_of_readEntries hfs he
          exact ih _ hv hread

/-- **A field that is read from a value without functions has none.** -/
theorem codedThroughout_of_read {v : Value} (hv : v.CallableFree) {name : String} {f : Field}
    (h : (read name v).result = .ok f) : f.Throughout Coded := by
  induction v using Value.induct_members generalizing name f with
  | leaf v hmap hitems => exact codedThroughout_of_leaf hv hmap hitems h
  | list items ih =>
      exact codedThroughout_of_items rfl (fun v hv' _ _ => ih v hv' (hv.members v hv')) h
  | tuple items ih =>
      exact codedThroughout_of_items rfl (fun v hv' _ _ => ih v hv' (hv.members v hv')) h
  | map entries ih =>
      have hentries := callableFree_map.mp hv
      exact codedThroughout_of_map hentries (fun e he _ _ => ih e he (hentries e he)) h

end Field

/-! ## Definitions -/

/-- No function occurs in the definition. -/
structure Definition.Inert (d : Definition) : Prop where
  raw : AllFree d.raw
  seed : d.seed.CallableFree
  fields : ∀ e ∈ d.fields, e.2.Throughout Field.Coded
  cascades : ∀ e ∈ d.cascades, ∀ s, e.2.selector = some s → s.IsCode
  events : d.events = []
  schedules : d.schedules = []
  crons : d.crons = []
  migrations : d.migrations = []

/-- A definition that is read from entries without functions has none. -/
theorem Definition.inert_of_read {raw : Entries String Value} (hraw : AllFree raw)
    {d : Definition} (h : (Definition.read raw).result = .ok d) : d.Inert := by
  obtain ⟨r, hr⟩ := Definition.exists_readFrom h
  have hno : ∀ e ∈ raw, NoHandler e := fun e he => Or.inr (hraw e he).ne_function
  obtain ⟨hevents, hschedules, hcrons, hmigrations⟩ := hr.sameHandlers hno
  have hfields : ∀ e ∈ d.fields, e.2.Throughout Field.Coded := by
    intro e he
    obtain ⟨v, hv, hread⟩ := Definition.exists_read_of_mem_fields h he
    exact Field.codedThroughout_of_read (hraw _ hv) hread
  refine ⟨hr.origin ▸ hraw, hr.seed ▸ hraw.lookup "$seed", hfields, ?_, hevents, hschedules, hcrons,
    hmigrations⟩
  -- the cascades are those of the fields
  rw [hr.cascades]
  intro e he s hs
  obtain ⟨⟨name, f⟩, hf, hcascade⟩ := List.mem_filterMap.mp he
  obtain ⟨c, hc, rfl⟩ := Option.map_eq_some_iff.mp hcascade
  exact (hfields _ hf).here.selector s (Option.bind_eq_some_iff.mpr ⟨c, hc, hs⟩)

end Entity
