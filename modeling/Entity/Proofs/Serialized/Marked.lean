import Entity.Proofs.Cascade.Grammar
import Entity.Proofs.Serialized.Raw
import Mathlib.Data.List.TakeWhile

/-!
# Reading marked fields again

Main statement: a field that is rebuilt under a marker has its source, its type, unless it is a
link, and its options again, and only a number in a cascade text that is too long to be read can
stop it.
-/

namespace Entity

open Entries Entity.Text

/-! ## Aggregates -/

theorem ofName?_toLower_name (f : AggregateFunction) :
    AggregateFunction.ofName? (toLower f.name) = some f := by
  cases f <;> rfl

/-- A text that begins with the name of a function begins with no other spelling of a name. -/
theorem foldedStart?_name {f g : AggregateFunction} {cs w rest : List Char}
    (h : foldedStart? g.name.toList (f.name.toList ++ cs) = some (w, rest)) :
    w = g.name.toList := by
  obtain ⟨rfl, hw⟩ := foldedStart?_eq_some h
  cases f <;> cases g <;> simp_all [AggregateFunction.name, foldLetter]

theorem trimStart_name (f : AggregateFunction) (cs : List Char) :
    trimStart (f.name.toList ++ cs) = f.name.toList ++ cs := by
  cases f <;> rfl

/-- The text of an aggregate with a function is read with the name of a function, if at all. -/
theorem aggregateParts?_name {f : AggregateFunction} {text written path : String} {cs : List Char}
    (htext : text.toList = f.name.toList ++ cs)
    (h : aggregateParts? text = some (written, path)) :
    ∃ g : AggregateFunction, written = g.name := by
  rw [aggregateParts?, htext, trimStart_name] at h
  obtain ⟨g, -, hg⟩ := List.exists_of_findSome?_eq_some h
  simp only [Option.bind_eq_bind, Option.bind_eq_some_iff] at hg
  obtain ⟨⟨w, rest⟩, hw, cs', -, hsome⟩ := hg
  cases hsome
  exact ⟨g, by rw [foldedStart?_name hw, String.ofList_toList]⟩

/-- The text of an aggregate is always read as an aggregate. -/
theorem exists_result_ofAggregateText {a : Aggregate} (h : a.Resolved) (name : String) :
    ∃ g, (Field.ofAggregateText name a.toText).result = .ok g ∧ g.source = .aggregate ∧
      g.cascade = none := by
  unfold Field.ofAggregateText
  split
  · rw [Field.result_degraded]
    exact ⟨_, rfl, rfl, rfl⟩
  · rename_i written path hparts
    have hwritten : ∃ g : AggregateFunction, written = g.name := by
      cases hf : a.function with
      | none =>
          have hnone := h hf
          rw [Aggregate.toText, hf] at hparts
          rw [hnone] at hparts
          cases hparts
      | some f =>
          rw [Aggregate.toText, hf] at hparts
          have htext : (f.name ++ "(" ++ a.path ++ ")").toList =
              f.name.toList ++ "(".toList ++ a.path.toList ++ ")".toList := by
            simp only [String.toList_append]
          rw [List.append_assoc, List.append_assoc] at htext
          exact aggregateParts?_name htext hparts
    obtain ⟨g, rfl⟩ := hwritten
    rw [ofName?_toLower_name]
    exact ⟨_, rfl, rfl, rfl⟩

/-! ## Links -/

theorem mem_dropWhile {p : Char → Bool} {c : Char} {cs : List Char} (hc : c ∈ cs)
    (hp : p c = false) : c ∈ cs.dropWhile p := by
  rw [← List.takeWhile_append_dropWhile (p := p) (l := cs), List.mem_append] at hc
  rcases hc with hc | hc
  · rw [List.mem_takeWhile_imp hc] at hp
    cases hp
  · exact hc

/-- A character that is no blank is left when a text is trimmed. -/
theorem mem_trim {c : Char} {cs : List Char} (hc : c ∈ cs) (hb : isBlank c = false) :
    c ∈ trim cs := by
  have hstart : c ∈ trimStart cs := mem_dropWhile hc hb
  rw [trim, trimEnd, dropEndWhile, List.mem_reverse]
  exact mem_dropWhile (List.mem_reverse.mpr hstart) hb

/-- A text keeps a first character that is no blank. -/
theorem exists_trim_cons {c : Char} (hc : isBlank c = false) (cs : List Char) :
    ∃ rest, trim (c :: cs) = c :: rest := by
  have hbegins : trim (c :: cs) <+: c :: cs := by
    rw [trim, trimStart_cons hc]
    exact trimEnd_prefix_self _
  have hmem : c ∈ trim (c :: cs) := mem_trim List.mem_cons_self hc
  obtain ⟨d, rest, hd⟩ := List.exists_cons_of_ne_nil (List.ne_nil_of_mem hmem)
  rw [hd] at hbegins ⊢
  rw [(List.cons_prefix_cons.mp hbegins).1]
  exact ⟨rest, rfl⟩

/-- A text that begins with an arrow has no route parameter. -/
theorem withoutRoute_arrow (cs : List Char) :
    withoutRoute ('-' :: '>' :: cs) = (none, '-' :: '>' :: cs) := by
  obtain ⟨rest, hrest⟩ := exists_trim_cons (c := '-') rfl ('>' :: cs)
  have hnone : route? (trim ('-' :: '>' :: cs)) = none := by
    rw [hrest]
    rfl
  rw [withoutRoute, hnone]

theorem splitOperator?_arrow (d : Char) (ds : List Char) :
    splitOperator? ('-' :: '>' :: d :: ds) = some ([], .outgoing, d :: ds) := by
  simp [splitOperator?, operatorAt?, CascadeOperator.all, CascadeOperator.token, afterStart?]

/-- An arrow with something after it is an operator. -/
theorem read?_arrow {t : String} (h : t ≠ "") {c : Option Cascade}
    (hread : Cascade.read? ("->" ++ t) = .ok c) : c.isSome := by
  obtain ⟨d, ds, hd⟩ := List.exists_cons_of_ne_nil (mt String.toList_eq_nil_iff.mp h)
  have htext : ("->" ++ t).toList = '-' :: '>' :: d :: ds := by
    rw [String.toList_append, hd]
    rfl
  simp only [Cascade.read?, htext, withoutRoute_arrow, splitOperator?_arrow] at hread
  obtain ⟨target, -, hread⟩ := bind_eq_ok.mp hread
  cases hread
  rfl

/-- The text that a `$link` text stands for. -/
theorem result_linkText_text (text : String) : (linkText (.text text)).result =
    (Cascade.read? (trimmed text)).map fun c =>
      if c.isSome then trimmed text else "->" ++ trimmed text :=
  result_linkText (.text text)

/-- What is printed for a cascade is read as a cascade again, if it is read at all. -/
theorem isSome_of_linkText {text text' : String} (hne : trimmed text ≠ "")
    (htext : (linkText (.text text)).result = .ok text') {c : Option Cascade}
    (hread : Cascade.read? text' = .ok c) : c.isSome := by
  rw [result_linkText_text] at htext
  obtain ⟨c₀, hc₀, rfl⟩ := map_eq_ok.mp htext
  -- without an operator an arrow is put before the text, and then there is one
  cases c₀ with
  | none => exact read?_arrow hne hread
  | some c₀ =>
      rw [Option.isSome_some, if_pos rfl, hc₀] at hread
      cases hread
      rfl

theorem token_subset_toGrammar (c : Cascade) :
    ∀ d ∈ c.operator.token.toList, d ∈ c.toGrammar.toList := by
  intro d hd
  have hbody :
      d ∈ (c.operator.token ++ c.qualifiedTarget ++ Cascade.filterText c.filters).toList := by
    simp only [String.toList_append, List.mem_append]
    exact Or.inl (Or.inl hd)
  unfold Cascade.toGrammar
  cases Text.nonEmpty? c.prompt <;> cases Text.nonEmpty? c.route <;>
    simp only [String.toList_append, List.mem_append] at hbody ⊢ <;> simp [hbody]

theorem trimmed_toGrammar_ne_empty (c : Cascade) : trimmed c.toGrammar ≠ "" := by
  obtain ⟨d, rest, htoken, hd, -⟩ := token_operator c.operator
  have hmem : d ∈ trim c.toGrammar.toList :=
    mem_trim (token_subset_toGrammar c d (by rw [htoken]; simp)) hd
  intro hempty
  have hnil := congrArg String.toList hempty
  rw [trimmed, String.toList_ofList] at hnil
  rw [hnil] at hmem
  cases hmem

/-- The value of a link: a text, or a list of it. -/
def linkBody (listed : Bool) (text : String) : Value :=
  if listed then .list [.text text] else .text text

/-- The end of reading a link: a link that could not be read, or one that is given its selection. -/
theorem exists_result_linkEnd (name text issue : String) (g : Field)
    (selector : Option Computation) :
    ∃ g', (if g.cascade.isNone then
        Field.degraded { name, description := text, source := .link } issue
        else pure (g.withSelector selector)).result = .ok g' ∧
      g'.source = (if g.cascade.isSome then g.source else .link) ∧
      g'.type = (if g.cascade.isSome then g.type else .string) ∧
      g'.cascade = g.cascade.map fun c => { c with selector := selector.or c.selector } := by
  cases hc : g.cascade with
  | none =>
      rw [Option.isNone_none, if_pos rfl, Field.result_degraded]
      exact ⟨_, rfl, rfl, rfl, rfl⟩
  | some c =>
      rw [Option.isNone_some, if_neg Bool.false_ne_true]
      refine ⟨_, rfl, ?_⟩
      cases selector with
      | none => exact ⟨rfl, rfl, hc⟩
      | some s => exact ⟨rfl, rfl, by simp [Field.withSelector, hc]⟩

/-- A link whose texts can be read is read as a link, with the cascade of its text. -/
theorem exists_result_ofLink {lit text : String} {c : Option Cascade}
    (htext : (linkText (.text lit)).result = .ok text) (hread : Cascade.read? text = .ok c)
    (name : String) (listed : Bool) (selector : Value) :
    ∃ g, (Field.ofLink name (linkBody listed lit) selector).result = .ok g ∧ g.source = .link ∧
      g.type = (if listed ∧ c.isSome then .array else .string) ∧
      g.cascade = c.map fun c => { c with
        isArray := listed || c.isArray
        selector := (Computation.ofValue? selector).or c.selector } := by
  cases listed with
  | true =>
      obtain ⟨g, hg, hcascade, hlink⟩ := exists_result_ofText hread "item"
      obtain ⟨g', hg', hsource, htype, hback⟩ := exists_result_linkEnd name text
        ("unreadable link " ++ Text.quoted text) (.ofElement name true g)
        (Computation.ofValue? selector)
      refine ⟨g', ?_, ?_, ?_, ?_⟩
      · simpa [Field.ofLink, linkBody, Value.items?, htext, hg, Except.bind, Except.map] using hg'
      · rw [hsource]
        cases c <;> simp_all [Field.ofElement]
      · rw [htype]
        cases c <;> simp_all [Field.ofElement]
      · rw [hback, Field.ofElement, hcascade, Option.map_map]
        rfl
  | false =>
      obtain ⟨g, hg, hcascade, hlink⟩ := exists_result_ofText hread name
      obtain ⟨g', hg', hsource, htype, hback⟩ := exists_result_linkEnd name text
        ("unreadable link " ++ Text.quoted text) g (Computation.ofValue? selector)
      refine ⟨g', ?_, ?_, ?_, ?_⟩
      · simpa [Field.ofLink, linkBody, Value.items?, htext, hg, Except.bind] using hg'
      · rw [hsource]
        cases c <;> simp_all
      · rw [htype]
        cases c <;> simp_all
      · rw [hback, hcascade]
        simp only [Bool.false_or]

/-- A link of which a text cannot be read fails. -/
theorem exists_error_ofLink {lit : String} (h : ¬ ∃ text c,
      (linkText (.text lit)).result = .ok text ∧ Cascade.read? text = .ok c)
    (name : String) (listed : Bool) (selector : Value) :
    ∃ e, (Field.ofLink name (linkBody listed lit) selector).result = .error e := by
  cases htext : (linkText (.text lit)).result with
  | error e =>
      refine ⟨e, ?_⟩
      cases listed <;> simp [Field.ofLink, linkBody, Value.items?, htext, Except.bind]
  | ok text =>
      cases hread : Cascade.read? text with
      | ok c => exact absurd ⟨text, c, htext, hread⟩ h
      | error e =>
          refine ⟨e, ?_⟩
          cases listed <;>
            simp [Field.ofLink, linkBody, Value.items?, htext, result_ofText_error hread,
              Except.bind]

/-! ## Marked fields -/

namespace Field

/-- The texts that a field is read from again are read without a failure: a number in a filter of a
cascade text may have too many digits. -/
def Legible (f : Field) : Prop :=
  match f.source with
  | .link => ∃ text c, (linkText (.text f.literal)).result = .ok text ∧ Cascade.read? text = .ok c
  | .input => ∃ c, Cascade.read? f.inputText = .ok c
  | _ => True

/-- What the text that a field is read from again denotes: a cascade, or nothing. -/
def ReadsBack (f : Field) (c : Option Cascade) : Prop :=
  match f.source with
  | .link => ∃ text, (linkText (.text f.literal)).result = .ok text ∧ Cascade.read? text = .ok c
  | .input => Cascade.read? f.inputText = .ok c
  | _ => c = none

theorem legible_iff (f : Field) : f.Legible ↔ ∃ c, f.ReadsBack c := by
  unfold Legible ReadsBack
  cases f.source with
  | link => exact exists_comm
  | input => exact Iff.rfl
  | _ => simp

/-- A text denotes one cascade only. -/
theorem ReadsBack.unique {f : Field} {c c' : Option Cascade} (h : f.ReadsBack c)
    (h' : f.ReadsBack c') : c = c' := by
  cases hs : f.source with
  | link =>
      simp only [ReadsBack, hs] at h h'
      obtain ⟨text, htext, hread⟩ := h
      obtain ⟨text', htext', hread'⟩ := h'
      rw [htext] at htext'
      cases htext'
      rw [hread] at hread'
      cases hread'
      rfl
  | input =>
      simp only [ReadsBack, hs] at h h'
      rw [h] at h'
      cases h'
      rfl
  | _ =>
      simp only [ReadsBack, hs] at h h'
      rw [h, h']

/-- A link that is written with a canonical cascade denotes it. -/
theorem readsBack_of_canonical {f : Field} {c : Cascade} (hs : f.source = .link)
    (hliteral : f.literal = c.toGrammar) (h : c.Canonical) : f.ReadsBack (some c) := by
  simp only [ReadsBack, hs]
  refine ⟨c.toGrammar, ?_, h.read?⟩
  rw [hliteral, result_linkText_text, h.trimmed_toGrammar, h.read?]
  rfl

/-- A cascade that is read from a text has no function of its own. -/
theorem ReadsBack.selector {f : Field} {c : Cascade} (h : f.ReadsBack (some c)) :
    c.selector = none := by
  unfold ReadsBack at h
  split at h
  · obtain ⟨text, -, hread⟩ := h
    exact selector_of_read? hread
  · exact selector_of_read? h
  · cases h

/-- The cascade of a link that is read again is declared where the link is, and the code of the
link selects its instances. -/
def recast (f : Field) (c : Cascade) : Cascade :=
  if f.source = .link then { c with
    isArray := f.isListed || c.isArray
    selector := (Text.nonEmpty? f.code?).map Computation.code }
  else c

/-- The type that a field has when it is read from a marked mapping. -/
def markedType (f : Field) : Primitive :=
  if f.source = .link then if f.isListed then .array else .string else f.type

theorem body_link {f : Field} (hs : f.source = .link) :
    f.body = linkBody f.isListed f.literal := by
  simp only [body, hs, linkBody]

/-- A link with a cascade is read with a cascade. -/
theorem isSome_of_isListed {f : Field} (hlisted : f.isListed = true) {text : String}
    {c : Option Cascade} (htext : (linkText (.text f.literal)).result = .ok text)
    (hread : Cascade.read? text = .ok c) : c.isSome := by
  cases hc : f.cascade with
  | none => simp [isListed, hc] at hlisted
  | some c' =>
      have hliteral : f.literal = c'.toGrammar := by simp only [literal, hc]
      rw [hliteral] at htext
      exact isSome_of_linkText (trimmed_toGrammar_ne_empty c') htext hread

theorem lookup_where_markedEntries {f : Field} (h : FreeOptions f.options)
    (hs : f.source = .link) :
    Value.lookup f.markedEntries "where" = Value.ofText? (Text.nonEmpty? f.code?) := by
  have hoptions : get? "where" f.options = none :=
    get?_eq_none_iff.mpr fun hk => h.notInterpreted _ hk (by decide)
  have hmarker : "$" ++ f.source.name ≠ "where" := by
    cases f.source <;> decide
  -- neither the marker nor an option has this key
  rw [Value.lookup, markedEntries, get?_cons, if_neg hmarker, get?_append, hoptions,
    Option.or_none]
  simp only [beside, hs, textEntry]
  cases Text.nonEmpty? f.code? <;> rfl

/-- What is known of a field that is read from the marked mapping of another. -/
structure GivesBack (f g : Field) : Prop where
  source : g.source = f.source
  type : f.source = .link → g.type = f.markedType
  compute : f.source = .compute →
    g.compute = some (.code ((Text.nonEmpty? f.code?).getD f.literal))
  cascade : ∃ c, f.ReadsBack c ∧ g.cascade = c.map f.recast

/-- A field that is neither a link nor an input comes back without a cascade. -/
theorem givesBack_of_cascade_eq_none {f g : Field} (hlink : f.source ≠ .link)
    (hinput : f.source ≠ .input) (hsource : g.source = f.source) (hcascade : g.cascade = none)
    (hcompute : f.source = .compute →
      g.compute = some (.code ((Text.nonEmpty? f.code?).getD f.literal))) : f.GivesBack g := by
  refine ⟨hsource, fun h => absurd h hlink, hcompute, none, ?_, hcascade⟩
  unfold ReadsBack
  split
  · exact absurd ‹_› hlink
  · exact absurd ‹_› hinput
  · rfl

/-- An input comes back with the cascade of its text. -/
theorem exists_result_ofMarker_input {f : Field} (hs : f.source = .input) (hl : f.Legible)
    (name : String) : ∃ g, (Field.ofInput name f.body).result = .ok g ∧ f.GivesBack g := by
  obtain ⟨c, hback⟩ := f.legible_iff.mp hl
  have hc : Cascade.read? f.inputText = .ok c := by simpa only [ReadsBack, hs] using hback
  simp only [body, hs, result_ofInput, hc]
  refine ⟨_, rfl, ?_, by simp [hs], by simp [hs], c, hback, ?_⟩
  · cases c with
    | none => rw [source_ofInputText, hs]
    | some c => exact hs.symm
  · cases c with
    | none => exact cascade_ofInputText _ _
    | some c => simp [recast, hs]

/-- A link comes back with the cascade of its text and the code that is written beside it. -/
theorem exists_result_ofMarker_link {f : Field} (hs : f.source = .link)
    (hoptions : FreeOptions f.options) (hl : f.Legible) (name : String) :
    ∃ g, (Field.ofLink name f.body (Value.lookup f.markedEntries "where")).result = .ok g ∧
      f.GivesBack g := by
  obtain ⟨c, hback⟩ := f.legible_iff.mp hl
  have hbacked := hback
  simp only [ReadsBack, hs] at hback
  obtain ⟨text, htext, hread⟩ := hback
  obtain ⟨g, hg, hsource, htype, hcascade⟩ := exists_result_ofLink htext hread name f.isListed
    (Value.lookup f.markedEntries "where")
  rw [body_link hs]
  refine ⟨g, hg, hsource.trans hs.symm, fun _ => ?_, by simp [hs], c, hbacked, ?_⟩
  · rw [htype, markedType, if_pos hs]
    cases hlisted : f.isListed with
    | false => simp
    | true => simp [isSome_of_isListed hlisted htext hread]
  · rw [hcascade]
    cases c with
    | none => rfl
    | some c =>
        simp only [Option.map_some, recast, if_pos hs, lookup_where_markedEntries hoptions hs,
          selector_of_read? hread, Option.or_none]
        cases Text.nonEmpty? f.code? <;> rfl

/-- The marker of a field that is legible gives the field back. -/
theorem exists_result_ofMarker {f : Field} (h : f.Formed) (hl : f.Legible) (name : String) :
    ∃ g, (ofMarker name f.source f.body f.markedEntries).result = .ok g ∧ f.GivesBack g := by
  cases hs : f.source with
  | input => exact exists_result_ofMarker_input hs hl name
  | generate =>
      simp only [ofMarker, body, hs, ofGenerate]
      exact ⟨_, rfl, givesBack_of_cascade_eq_none (by simp [hs]) (by simp [hs]) hs.symm rfl
        (by simp [hs])⟩
  | compute =>
      simp only [ofMarker, body, hs, ofCompute, Computation.ofValue?]
      exact ⟨_, rfl, givesBack_of_cascade_eq_none (by simp [hs]) (by simp [hs]) hs.symm rfl
        fun _ => rfl⟩
  | sync =>
      simp only [ofMarker, body, hs]
      exact ⟨_, rfl, givesBack_of_cascade_eq_none (by simp [hs]) (by simp [hs]) hs.symm rfl
        (by simp [hs])⟩
  -- an aggregate is the only field whose text could name an unknown function
  | aggregate =>
      obtain ⟨a, hc, ha, hresolved⟩ := h.aggregate hs
      have hliteral : f.literal = a.toText := by simp only [literal, hc, hs, ha]
      obtain ⟨g, hg, hsource, hcascade⟩ := exists_result_ofAggregateText hresolved name
      simp only [ofMarker, body, hs, Value.shown, hliteral]
      exact ⟨g, hg, givesBack_of_cascade_eq_none (by simp [hs]) (by simp [hs])
        (hsource.trans hs.symm) hcascade (by simp [hs])⟩
  | fuzzy =>
      simp only [ofMarker, body, hs]
      exact ⟨_, rfl, givesBack_of_cascade_eq_none (by simp [hs]) (by simp [hs]) hs.symm rfl
        (by simp [hs])⟩
  | link => exact exists_result_ofMarker_link hs h.freeOptions hl name

theorem exists_error_ofMarker {f : Field} (hl : ¬ f.Legible) (name : String)
    (entries : Entries String Value) :
    ∃ e, (ofMarker name f.source f.body entries).result = .error e := by
  cases hs : f.source with
  | input =>
      simp only [Legible, hs] at hl
      simp only [ofMarker, body, hs, result_ofInput]
      cases hc : Cascade.read? f.inputText with
      | error e => exact ⟨e, rfl⟩
      | ok c => exact absurd ⟨c, hc⟩ hl
  | link =>
      simp only [Legible, hs] at hl
      rw [ofMarker, body_link hs]
      exact exists_error_ofLink hl name f.isListed _
  | _ => simp [Legible, hs] at hl

/-! ### The keys beside the marker -/

theorem optionsOf_markedEntries {f : Field} (h : FreeOptions f.options) :
    optionsOf f.markedEntries = f.options := by
  have hbeside : optionsOf f.beside = [] := by
    refine List.filter_eq_nil_iff.mpr fun e he => ?_
    have hkey : e.1 ∈ interpretedKeys :=
      f.keys_beside_sublist.subset (List.mem_map_of_mem he)
    simp [hkey]
  have hmarker := ofMarker?_name f.source
  rw [markedEntries, optionsOf, List.filter_cons, if_neg (by simp [hmarker]), List.filter_append]
  exact congrArg₂ _ hbeside h.optionsOf_eq

theorem get?_type_markedEntries {f : Field} (h : FreeOptions f.options) :
    get? "type" f.markedEntries =
      if f.source = .link then none else some (.text f.type.name) := by
  have hoptions : get? "type" f.options = none :=
    get?_eq_none_iff.mpr fun hk => h.notInterpreted _ hk (by decide)
  have hmarker : "$" ++ f.source.name ≠ "type" := by
    cases f.source <;> decide
  rw [markedEntries, get?_cons, if_neg hmarker]
  cases hs : f.source <;> simp [beside, hs, hoptions, get?_cons]

theorem ofName?_toLower_typeName (t : Primitive) :
    Primitive.ofName? (toLower t.name) = some t := by
  cases t <;> rfl

/-- The type beside the marker is the type of the field; a link has none. -/
theorem withType_markedEntries {f : Field} (h : FreeOptions f.options) (g : Field) :
    g.withType f.markedEntries =
      ({ g with type := if f.source = .link then g.type else f.type }, []) := by
  rw [withType, get?_type_markedEntries h]
  by_cases hs : f.source = .link
  · simp only [if_pos hs]
    cases g
    rfl
  · simp only [if_neg hs, Value.shown, ofName?_toLower_typeName]

theorem withDescription_markedEntries {f : Field} (h : FreeOptions f.options) (g : Field) :
    g.withDescription f.markedEntries = g := by
  have hoptions : get? "description" f.options = none :=
    get?_eq_none_iff.mpr fun hk => h.notInterpreted _ hk (by decide)
  have hmarker : "$" ++ f.source.name ≠ "description" := by
    cases f.source <;> decide
  have hnone : get? "description" f.markedEntries = none := by
    rw [markedEntries, get?_cons, if_neg hmarker, get?_append, hoptions, Option.or_none]
    cases hs : f.source with
    | generate =>
        cases hschema : f.generation.bind Generation.schema <;>
          simp [beside, hs, hschema, get?_cons]
    | _ => simp [beside, hs, get?_cons]
  rw [withDescription, hnone]

/-- A marked mapping has one marker. -/
theorem conflictIssues_markedEntries {f : Field} (h : FreeOptions f.options) :
    conflictIssues ("$" ++ f.source.name) f.markedEntries = [] := by
  have hbeside : ∀ k ∈ keys f.beside, Source.ofMarker? k = none := by
    intro k hk
    have hall : ∀ k ∈ interpretedKeys, Source.ofMarker? k = none := by decide
    exact hall k (f.keys_beside_sublist.subset hk)
  have hothers : ((keys f.markedEntries).filter fun k =>
      (Source.ofMarker? k).isSome && k != "$" ++ f.source.name) = [] := by
    refine List.filter_eq_nil_iff.mpr fun k hk => ?_
    simp only [markedEntries, keys, List.map_cons, List.map_append, List.mem_cons,
      List.mem_append] at hk
    rcases hk with rfl | hk | hk
    · simp
    · simp [hbeside k hk]
    · simp [h.notMarker k hk]
  rw [conflictIssues, hothers]
  rfl

/-- **What a marked mapping is read as.**  The marker makes a field of its value; the shape is that
of the field, unless it is a link, and the options are those of the field. -/
theorem result_read_markedEntries {f : Field} (h : FreeOptions f.options) (name : String) :
    (Field.read name (.map f.markedEntries)).result =
      (ofMarker name f.source f.body f.markedEntries).result.map fun g => { g with
        type := if f.source = .link then g.type else f.type
        options := f.options } := by
  have hmarker : marker? f.markedEntries = some ("$" ++ f.source.name, f.source, f.body) := by
    rw [markedEntries, marker?, ofMarker?_name]
  simp only [Field.read, hmarker, ofMarked, Outcome.result_bind, withDescription_markedEntries h,
    withType_markedEntries h, conflictIssues_markedEntries h, optionsOf_markedEntries h,
    List.append_nil, result_degradedBy]
  cases (ofMarker name f.source f.body f.markedEntries).result <;> rfl

/-- **A legible field that is rebuilt under a marker** comes back, with its options. -/
theorem exists_result_read_marked {f : Field} (h : f.Formed) (hl : f.Legible) (name : String) :
    ∃ f', (Field.read name (.map f.markedEntries)).result = .ok f' ∧
      f.GivesBack f' ∧ f'.type = f.markedType ∧ f'.options = f.options := by
  obtain ⟨g, hg, hback⟩ := exists_result_ofMarker h hl name
  have htype : (if f.source = .link then g.type else f.type) = f.markedType := by
    by_cases hs : f.source = .link
    · rw [if_pos hs, hback.type hs]
    · rw [if_neg hs, markedType, if_neg hs]
  rw [result_read_markedEntries h.freeOptions, hg]
  exact ⟨_, rfl, ⟨hback.source, fun _ => htype, hback.compute, hback.cascade⟩, htype, rfl⟩

theorem exists_error_read_marked {f : Field} (h : f.Formed) (hl : ¬ f.Legible) (name : String) :
    ∃ e, (Field.read name (.map f.markedEntries)).result = .error e := by
  obtain ⟨e, he⟩ := exists_error_ofMarker hl name f.markedEntries
  exact ⟨e, by rw [result_read_markedEntries h.freeOptions, he]; rfl⟩

/-- **What was read from a marked mapping** is what the field gives back, and the field is legible. -/
theorem givesBack_of_read {f g : Field} (h : f.Formed) {name : String}
    (hread : (Field.read name (.map f.markedEntries)).result = .ok g) :
    f.Legible ∧ f.GivesBack g := by
  have hl : f.Legible := by
    by_contra hno
    obtain ⟨e, he⟩ := exists_error_read_marked h hno name
    rw [hread] at he
    cases he
  obtain ⟨g', hg', hback, -⟩ := exists_result_read_marked h hl name
  -- reading is a function, so that what was read is what the marker gives back
  rw [hread] at hg'
  cases hg'
  exact ⟨hl, hback⟩

end Field

end Entity
