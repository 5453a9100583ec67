import Entity.Proofs.Field.Payload
import Entity.Proofs.Serialized.Survival

/-!
# The fields that rebuilding makes

Whatever a definition was written as, the fields that are read from its serialized form are of a few
kinds: under a marker stands one text, and beside it stands what the source needs.  Main statements:
what a marked field is read as, for each source, and every field that comes back is of these kinds.
-/

namespace Entity

open Entries Entity.Text

/-! ## Type suffixes -/

/-- Taking a type suffix off leaves less. -/
theorem length_of_typeSuffix? {cs rest : List Char} {type : Primitive}
    (h : typeSuffix? cs = some (rest, type)) : rest.length + 2 ≤ cs.length := by
  obtain ⟨t, -, ht⟩ := List.exists_of_findSome?_eq_some h
  dsimp only at ht
  split at ht
  · rename_i hsuffix
    cases ht
    have hbody := length_trimEnd_le cs
    have hlong := hsuffix.1
    have htwo : 2 ≤ ('(' :: (type.name.toList ++ [')'])).length := by simp
    refine Nat.le_trans (Nat.add_le_add_right (length_trim_le _) 2) ?_
    rw [List.length_take]
    omega
  · cases ht

/-- A text is left as it is exactly when it has no type suffix. -/
theorem splitTypeSuffix_eq_self_iff (text : String) :
    (splitTypeSuffix text).1 = text ↔ typeSuffix? text.toList = none := by
  unfold splitTypeSuffix
  cases hsuffix : typeSuffix? text.toList with
  | none => simp
  | some found =>
      obtain ⟨rest, type⟩ := found
      have hless := length_of_typeSuffix? hsuffix
      simp only [reduceCtorEq, iff_false]
      intro hsame
      have hlength := congrArg (fun s : String => s.toList.length) hsame
      simp only [String.toList_ofList] at hlength
      omega

/-! ## Aggregates -/

/-- The path between the brackets of an aggregate expression: words with points. -/
structure PathText (path : List Char) : Prop where
  ne_nil : path ≠ []
  chars : ∀ c ∈ path, (isWord c || c == '.') = true

theorem pathText_of_aggregatePath? {cs path : List Char} (h : aggregatePath? cs = some path) :
    PathText path := by
  unfold aggregatePath? at h
  split at h
  · dsimp only at h
    split at h
    · split at h
      · cases h
      · rename_i hgood
        cases h
        rw [Bool.or_eq_true, not_or, List.isEmpty_iff] at hgood
        refine ⟨hgood.1, ?_⟩
        rw [List.span_eq_takeWhile_dropWhile]
        intro c hc
        exact List.mem_takeWhile_imp (p := fun c => isWord c || c == '.') hc
    · cases h
  · cases h

/-- A path between brackets is read as it is. -/
theorem aggregatePath?_brackets {path : List Char} (h : PathText path) :
    aggregatePath? ('(' :: (path ++ [')'])) = some path := by
  have hsolid : SolidStart path := by
    obtain ⟨c, rest, rfl⟩ := List.exists_cons_of_ne_nil h.ne_nil
    refine ⟨c, rest, rfl, ?_⟩
    rcases Bool.or_eq_true_iff.mp (h.chars c (by simp)) with hc | hc
    · exact isBlank_of_isWord hc
    · rw [beq_iff_eq.mp hc]
      rfl
  have hspan : (path ++ [')']).span (fun c => isWord c || c == '.') = (path, [')']) := by
    refine span_append h.chars ?_
    rintro c ⟨⟩
    decide
  have hopen : trimStart ('(' :: (path ++ [')'])) = '(' :: (path ++ [')']) := trimStart_cons rfl
  have hclose : trimStart [')'] = [')'] := trimStart_cons rfl
  simp only [aggregatePath?, hopen, trimStart_of_solid (hsolid.append [')']), hspan, hclose]
  simp [h.ne_nil]

/-- The text of an aggregate with a readable path is read as its name and its path. -/
theorem aggregateParts?_toText (f : AggregateFunction) {path : List Char} (h : PathText path) :
    aggregateParts? (Aggregate.toText ⟨some f, String.ofList path⟩) =
      some (f.name, String.ofList path) := by
  have htext : (Aggregate.toText ⟨some f, String.ofList path⟩).toList =
      f.name.toList ++ ('(' :: (path ++ [')'])) := by
    simp [Aggregate.toText, String.toList_append]
  have hpath := aggregatePath?_brackets h
  rw [aggregateParts?, htext, trimStart_name]
  cases f <;>
    simp [AggregateFunction.all, AggregateFunction.name, foldedStart?, foldLetter, hpath]

/-! ## Cascades -/

/-- A cascade as its text declares it: empty texts are none, and nothing is said of lists and of
functions. -/
structure Cascade.Tidy (c : Cascade) : Prop where
  prompt : nonEmpty? c.prompt = c.prompt
  predicate : nonEmpty? c.predicate = c.predicate
  route : nonEmpty? c.route = c.route
  unlisted : c.isArray = false
  unselected : c.selector = none

/-- The cascade that the text of a cascade declares. -/
def Cascade.declared (c : Cascade) : Cascade := { c with isArray := false, selector := none }

theorem Cascade.Tidy.declared_eq {c : Cascade} (h : c.Tidy) : c.declared = c := by
  obtain ⟨-, -, -, hunlisted, hunselected⟩ := h
  cases c
  subst hunlisted hunselected
  rfl

theorem nonEmpty?_ofList {cs : List Char} (h : cs ≠ []) :
    nonEmpty? (some (String.ofList cs)) = some (String.ofList cs) := by
  refine nonEmpty?_eq_self ?_
  rintro s ⟨⟩ hempty
  exact h (by simpa using hempty)

theorem ne_nil_of_dotted? {cs first second : List Char} (h : dotted? cs = some (first, second)) :
    second ≠ [] := by
  unfold dotted? at h
  dsimp only at h
  split at h
  · split at h
    · rename_i hgood
      cases h
      rintro rfl
      simp at hgood
    · cases h
  · cases h

theorem ne_nil_of_route? {cs name body : List Char} (h : route? cs = some (name, body)) :
    name ≠ [] := by
  unfold route? at h
  split at h
  · dsimp only at h
    split at h
    · cases h
    · rename_i hgood
      cases h
      rintro hnil
      simp [hnil] at hgood
  · cases h

/-- A target has a predicate, which is not empty, or none. -/
theorem predicate_of_readTarget {cs : List Char} {target : String} {predicate : Option String}
    {filters : List Filter} {rejected : List String}
    (h : readTarget cs = .ok (target, predicate, filters, rejected)) :
    nonEmpty? predicate = predicate := by
  unfold readTarget at h
  dsimp only at h
  split at h
  on_goal 1 => obtain ⟨⟨fs, rs⟩, -, h⟩ := bind_eq_ok.mp h
  -- with filters and without them, the target is cut at its point
  all_goals
    have h := Except.ok.inj h
    dsimp only at h
    split at h
    · rename_i hdotted
      cases h
      exact nonEmpty?_ofList (ne_nil_of_dotted? hdotted)
    · cases h
      rfl

/-- What is read from a text is tidy. -/
theorem Cascade.tidy_of_read? {text : String} {c : Cascade}
    (h : Cascade.read? text = .ok (some c)) : c.Tidy := by
  simp only [Cascade.read?] at h
  split at h
  · cases h
  · obtain ⟨⟨target, predicate, filters, rejected⟩, htarget, h⟩ := bind_eq_ok.mp h
    cases h
    refine ⟨?_, predicate_of_readTarget htarget, ?_, rfl, rfl⟩
    · dsimp only
      split
      · rfl
      · rename_i hprompt
        exact nonEmpty?_ofList (by simpa using hprompt)
    · unfold withoutRoute
      cases hroute : route? (trim text.toList) with
      | none => rfl
      | some found => exact nonEmpty?_ofList (ne_nil_of_route? hroute)

/-! ## The text of a field -/

namespace Field

/-- The text of what the source needs, if there is any; a field without it is written as its
description. -/
def payload? (f : Field) : Option String :=
  match f.cascade with
  | some c => some c.toGrammar
  | none => match f.source, f.generation, nonEmpty? f.syncPath, f.aggregate,
      nonEmpty? f.fuzzyTarget with
    | .generate, some g, _, _, _ => some g.prompt
    | .sync, _, some path, _, _ => some ("$" ++ path)
    | .aggregate, _, _, some a, _ => some a.toText
    | .fuzzy, _, _, _, some target => some target
    | _, _, _, _, _ => none

theorem literal_eq (f : Field) : f.literal = f.payload?.getD f.description := by
  unfold literal payload?
  cases f.cascade with
  | some c => rfl
  | none =>
      dsimp only
      split <;> simp_all

/-- A list is written with the text of its element, or else with its own description. -/
theorem literal_ofElement (name : String) (shared : Bool) (i : Field) :
    (ofElement name shared i).literal =
      i.payload?.getD (if shared then i.description else "Array of " ++ name) := by
  have hpayload : (ofElement name shared i).payload? = i.payload? := by
    unfold payload? ofElement
    cases i.cascade <;> rfl
  rw [literal_eq, hpayload]
  rfl

/-! ## Marked mappings, source by source -/

/-- The path that a text without its type suffix stands for: one dollar sign may be before it. -/
def pathText (text : String) : String :=
  match text.toList with
  | '$' :: cs => String.ofList cs
  | _ => text

theorem ofSync_text (name text : String) : ofSync name (.text text) = {
    name, description := (splitTypeSuffix text).1, source := .sync
    type := (splitTypeSuffix text).2.getD .string
    syncPath := some (pathText (splitTypeSuffix text).1) } := by
  simp only [ofSync, Value.shown]
  generalize splitTypeSuffix text = found
  rfl

/-- The link of a cascade, by itself or in a list, with the code that selects its instances. -/
def ofCascade (name : String) (listed : Bool) (c : Cascade) (code : Option String)
    (options : Entries String Value) : Field where
  name := name
  description := c.description
  source := .link
  type := if listed then .array else .string
  item := if listed then
      some { name := "item", description := c.description, source := .link, cascade := some c }
    else none
  cascade := some { c with isArray := listed, selector := code.map Computation.code }
  options := options

theorem result_ofText_cascade {text : String} {c : Cascade}
    (h : Cascade.read? text = .ok (some c)) (name : String) : (Field.ofText name text).result =
      .ok { name, description := c.description, source := .link, cascade := some c } := by
  simp only [Field.ofText, Outcome.result_bind, result_read, h]
  rfl

section Marked

variable {f : Field} (h : FreeOptions f.options)

include h

theorem lookup_schema_markedEntries (hs : f.source = .generate) :
    Value.lookup f.markedEntries "schema" =
      ((f.generation.bind Generation.schema).map Value.map).getD .null := by
  have hoptions : get? "schema" f.options = none :=
    get?_eq_none_iff.mpr fun hk => h.notInterpreted _ hk (by decide)
  rw [Value.lookup, markedEntries, get?_cons, if_neg (by simp [hs, Source.name]), get?_append,
    hoptions, Option.or_none]
  cases hschema : f.generation.bind Generation.schema <;> simp [beside, hs, hschema, get?_cons]

theorem lookup_model_markedEntries (hs : f.source = .generate) :
    Value.lookup f.markedEntries "model" =
      Value.ofText? (nonEmpty? (f.generation.bind Generation.model)) := by
  have hoptions : get? "model" f.options = none :=
    get?_eq_none_iff.mpr fun hk => h.notInterpreted _ hk (by decide)
  have hmodel : get? "model" f.beside =
      (nonEmpty? (f.generation.bind Generation.model)).map Value.text := by
    cases hschema : f.generation.bind Generation.schema <;> simp [beside, hs, hschema, get?_cons]
  rw [Value.lookup, markedEntries, get?_cons, if_neg (by simp [hs, Source.name]), get?_append,
    hoptions, Option.or_none, hmodel]
  cases nonEmpty? (f.generation.bind Generation.model) <;> rfl

/-- An input is read as its cascade, or as its text. -/
theorem result_read_input (hs : f.source = .input) (name : String) :
    (Field.read name (.map f.markedEntries)).result = (Cascade.read? f.inputText).map fun c =>
      match c with
      | some c => { name, description := c.description, source := .input, type := f.type
                    cascade := some c, options := f.options }
      | none => { ofInputText name f.inputText with type := f.type, options := f.options } := by
  rw [result_read_markedEntries h]
  simp only [ofMarker, body, hs, result_ofInput]
  rcases Cascade.read? f.inputText with e | - | c <;> rfl

/-- A generated field is read as its prompt, without a type suffix. -/
theorem result_read_generate (hs : f.source = .generate) (name : String) :
    (Field.read name (.map f.markedEntries)).result = .ok {
      name, description := (splitTypeSuffix f.literal).1, source := .generate, type := f.type
      generation := some { Generation.ofPrompt (splitTypeSuffix f.literal).1 with
        schema := f.generation.bind Generation.schema
        model := nonEmpty? (f.generation.bind Generation.model) }
      options := f.options } := by
  have hschema : (Value.lookup f.markedEntries "schema").map? =
      f.generation.bind Generation.schema := by
    rw [lookup_schema_markedEntries h hs]
    cases f.generation.bind Generation.schema <;> rfl
  have hmodel : (Value.lookup f.markedEntries "model").text? =
      nonEmpty? (f.generation.bind Generation.model) := by
    rw [lookup_model_markedEntries h hs]
    cases nonEmpty? (f.generation.bind Generation.model) <;> rfl
  rw [result_read_markedEntries h]
  simp only [ofMarker, body, hs, ofGenerate, ofGeneratedText, hschema, hmodel, Value.shown]
  rfl

theorem result_read_compute (hs : f.source = .compute) (name : String) :
    (Field.read name (.map f.markedEntries)).result = .ok {
      name, description := (nonEmpty? f.code?).getD f.literal, source := .compute, type := f.type
      compute := some (.code ((nonEmpty? f.code?).getD f.literal))
      options := f.options } := by
  rw [result_read_markedEntries h]
  simp only [ofMarker, body, hs, ofCompute, Computation.ofValue?]
  rfl

theorem result_read_sync (hs : f.source = .sync) (name : String) :
    (Field.read name (.map f.markedEntries)).result = .ok {
      name, description := (splitTypeSuffix f.literal).1, source := .sync, type := f.type
      syncPath := some (pathText (splitTypeSuffix f.literal).1), options := f.options } := by
  rw [result_read_markedEntries h]
  simp only [ofMarker, body, hs, ofSync_text]
  rfl

theorem result_read_aggregate (hs : f.source = .aggregate) (name : String) :
    (Field.read name (.map f.markedEntries)).result = (ofAggregateText name f.literal).result.map
      fun g => { g with type := f.type, options := f.options } := by
  rw [result_read_markedEntries h]
  simp only [ofMarker, body, hs, Value.shown]
  rfl

theorem result_read_fuzzy (hs : f.source = .fuzzy) (name : String) :
    (Field.read name (.map f.markedEntries)).result = .ok {
      name, description := trimmed f.literal, source := .fuzzy, type := f.type
      fuzzyTarget := some (trimmed f.literal), options := f.options } := by
  rw [result_read_markedEntries h]
  simp only [ofMarker, body, hs, Value.shown]
  rfl

/-- A link is read as the cascade of its text, with the code that is written beside it, or else as
the text that could not be read. -/
theorem result_read_link (hs : f.source = .link) (name : String) :
    (Field.read name (.map f.markedEntries)).result = (linkText (.text f.literal)).result.bind
      fun text => (Cascade.read? text).map fun c => match c with
        | some c => ofCascade name f.isListed c (nonEmpty? f.code?) f.options
        | none => { name, description := text, source := .link, options := f.options
                    issues := ["unreadable link " ++ Text.quoted text] } := by
  rw [result_read_markedEntries h]
  simp only [ofMarker, hs, body_link hs, lookup_where_markedEntries h hs]
  cases htext : (linkText (.text f.literal)).result with
  | error e =>
      cases f.isListed <;>
        simp [ofLink, linkBody, Value.items?, htext, Except.bind, Except.map]
  | ok text =>
      cases hread : Cascade.read? text with
      | error e =>
          cases f.isListed <;>
            simp [ofLink, linkBody, Value.items?, htext, hread, result_ofText_error hread,
              Except.bind, Except.map]
      | ok c =>
          cases c with
          | none =>
              obtain ⟨g, hg, hcascade, -⟩ := exists_result_ofText hread
                (if f.isListed then "item" else name)
              cases hlisted : f.isListed <;> rw [hlisted] at hg <;>
                simp_all [ofLink, linkBody, Value.items?, ofElement, Except.bind, Except.map]
          | some c =>
              have hg := result_ofText_cascade hread
              have htidy := Cascade.tidy_of_read? hread
              cases hlisted : f.isListed <;> cases hcode : nonEmpty? f.code? <;>
                simp_all [ofLink, linkBody, Value.items?, ofElement, Except.bind, Except.map,
                  ofCascade, Value.ofText?, Computation.ofValue?, withSelector, htidy.unlisted,
                  htidy.unselected]
              -- by itself and without code the cascade is what its text declares
              exact htidy.declared_eq.symm

end Marked

/-! ## What comes back under a marker -/

/-- The fields that are read from marked mappings with a text under the marker. -/
inductive Spoken (name : String) (options : Entries String Value) : Field → Prop
  /-- An input whose text is no cascade; the text of an enumeration is trimmed. -/
  | plain {description : String} {enumValues : Option (List String)}
      (hvalues : ∀ vs, enumValues = some vs →
        Alternatives vs ∧ trimmed description = description)
      (type : Primitive) : Spoken name options
        { name, description, source := .input, type, enumValues, options }
  /-- A cascade that the user maintains. -/
  | kept {text : String} {c : Cascade} (hread : Cascade.read? text = .ok (some c))
      (type : Primitive) : Spoken name options {
        name, description := c.description, source := .input, type, cascade := some c, options }
  | generated {g : Generation} (hmodel : nonEmpty? g.model = g.model) (description : String)
      (type : Primitive) : Spoken name options {
        name, description, source := .generate, type, generation := some g, options }
  | computed (code : String) (type : Primitive) : Spoken name options {
      name, description := code, source := .compute, type, compute := some (.code code), options }
  | synced (text : String) (type : Primitive) : Spoken name options {
      name, description := text, source := .sync, type
      syncPath := some (pathText text), options }
  /-- An aggregate that could not be read. -/
  | unreadable {text : String} (hparts : aggregateParts? text = none) (type : Primitive) :
      Spoken name options {
        name, description := text, source := .aggregate, type, aggregate := some ⟨none, text⟩
        options, issues := ["unreadable aggregate expression " ++ Text.quoted text] }
  | aggregated (f : AggregateFunction) {path : List Char} (hpath : PathText path)
      (type : Primitive) : Spoken name options
        { ofAggregate name ⟨some f, String.ofList path⟩ with type, options }
  | matched {target : String} (htrim : trimmed target = target) (type : Primitive) :
      Spoken name options {
        name, description := target, source := .fuzzy, type, fuzzyTarget := some target, options }
  /-- A link that could not be read. -/
  | unlinked {text : String} (htext : trimmed text ≠ "") : Spoken name options {
      name, description := text, source := .link, options
      issues := ["unreadable link " ++ Text.quoted text] }
  | linked {text : String} {c : Cascade} (hread : Cascade.read? text = .ok (some c))
      (listed : Bool) {code : Option String} (hcode : nonEmpty? code = code) :
      Spoken name options (ofCascade name listed c code options)

theorem trimmed_trimmed (text : String) : trimmed (trimmed text) = trimmed text := by
  rw [trimmed, trimmed, String.toList_ofList, trim_trim]

/-- An aggregate text is not understood, or names a function and a path. -/
theorem spoken_of_ofAggregateText {name text : String} {g : Field}
    (h : (ofAggregateText name text).result = .ok g) (type : Primitive)
    (options : Entries String Value) :
    Spoken name options { g with type, options } ∧ g.source = .aggregate := by
  unfold ofAggregateText at h
  split at h
  · rename_i hparts
    rw [result_degraded] at h
    cases h
    exact ⟨.unreadable hparts type, rfl⟩
  · rename_i written path hparts
    split at h
    · rename_i f _
      cases h
      obtain ⟨_, -, hf⟩ := List.exists_of_findSome?_eq_some hparts
      simp only [Option.bind_eq_bind, Option.bind_eq_some_iff] at hf
      obtain ⟨⟨w, rest⟩, -, cs, hpath, hsome⟩ := hf
      cases hsome
      exact ⟨.aggregated f (pathText_of_aggregatePath? hpath) type, rfl⟩
    · cases h

/-- The text of a link is not blank. -/
theorem trimmed_ne_empty_of_linkText {literal text : String}
    (h : (linkText (.text literal)).result = .ok text) (hread : Cascade.read? text = .ok none) :
    trimmed text ≠ "" := by
  rw [result_linkText_text] at h
  obtain ⟨c, hc, rfl⟩ := map_eq_ok.mp h
  cases c with
  | some c =>
      rw [Option.isSome_some, if_pos rfl, hc] at hread
      cases hread
  | none =>
      rw [Option.isSome_none, if_neg Bool.false_ne_true]
      intro hempty
      have hmem : '-' ∈ trim ("->" ++ trimmed literal).toList := mem_trim (by simp) rfl
      have hnil := congrArg String.toList hempty
      rw [trimmed, String.toList_ofList] at hnil
      rw [hnil] at hmem
      cases hmem

/-- A plain text is a description, with alternatives as the case may be. -/
theorem exists_ofInputText_eq (name text : String) : ∃ description type enumValues,
    ofInputText name text = { name, description, source := .input, type, enumValues } ∧
      ∀ vs, enumValues = some vs → Alternatives vs ∧ trimmed description = description := by
  unfold ofInputText
  split
  · exact ⟨_, _, none, rfl, by simp⟩
  · split
    · rename_i values hvalues
      refine ⟨_, _, some values, rfl, ?_⟩
      rintro _ ⟨⟩
      exact ⟨alternatives_of_enumValues? hvalues, trimmed_trimmed text⟩
    · exact ⟨_, _, none, rfl, by simp⟩

/-- **What is read from the marked mapping of a field.** -/
theorem spoken_of_read {f g : Field} (h : FreeOptions f.options) {name : String}
    (hread : (Field.read name (.map f.markedEntries)).result = .ok g) :
    Spoken name f.options g ∧ g.source = f.source := by
  cases hs : f.source with
  | input =>
      rw [result_read_input h hs] at hread
      obtain ⟨c, hc, rfl⟩ := map_eq_ok.mp hread
      cases c with
      | none =>
          obtain ⟨description, type, enumValues, htext, hvalues⟩ :=
            exists_ofInputText_eq name f.inputText
          simp only [htext]
          exact ⟨.plain hvalues f.type, trivial⟩
      | some c => exact ⟨.kept hc f.type, rfl⟩
  | generate =>
      rw [result_read_generate h hs] at hread
      cases hread
      exact ⟨.generated (nonEmpty?_nonEmpty? _) _ f.type, rfl⟩
  | compute =>
      rw [result_read_compute h hs] at hread
      cases hread
      exact ⟨.computed _ f.type, rfl⟩
  | sync =>
      rw [result_read_sync h hs] at hread
      cases hread
      exact ⟨.synced _ f.type, rfl⟩
  | aggregate =>
      rw [result_read_aggregate h hs] at hread
      obtain ⟨g, hg, rfl⟩ := map_eq_ok.mp hread
      exact spoken_of_ofAggregateText hg f.type f.options
  | fuzzy =>
      rw [result_read_fuzzy h hs] at hread
      cases hread
      exact ⟨.matched (trimmed_trimmed _) f.type, rfl⟩
  | link =>
      rw [result_read_link h hs] at hread
      obtain ⟨text, htext, hread⟩ := bind_eq_ok.mp hread
      obtain ⟨c, hc, rfl⟩ := map_eq_ok.mp hread
      cases c with
      | none => exact ⟨.unlinked (trimmed_ne_empty_of_linkText htext hc), rfl⟩
      | some c => exact ⟨.linked hc f.isListed (nonEmpty?_nonEmpty? _), rfl⟩

theorem formed_of_read_marked {f g : Field} (h : FreeOptions f.options) {name : String}
    (hread : (Field.read name (.map f.markedEntries)).result = .ok g) : g.Formed := by
  have hmarker : marker? f.markedEntries = some ("$" ++ f.source.name, f.source, f.body) := by
    rw [markedEntries, marker?, ofMarker?_name]
  simp only [Field.read, hmarker] at hread
  exact formed_ofMarked (nodup_keys_markedEntries h) hread

theorem Spoken.form_eq {name : String} {options : Entries String Value} {f : Field}
    (h : Spoken name options f) : f.form = .marked := by
  rw [form_eq_marked]
  cases h with
  | unlinked | linked => exact Or.inl rfl
  | _ => exact Or.inr ⟨by simp [ofAggregate], by simp [ofAggregate]⟩

/-! ## What comes back in any form -/

/-- The fields that are read from the values that fields are rebuilt from: under a marker, as a list
of one element, or as nested fields.  A list has the description of an element that was read under a
marker, and this counts where the element has no other text. -/
inductive Regained : String → Field → Prop
  | marked {name : String} {options : Entries String Value} {f : Field}
      (h : Spoken name options f) : Regained name f
  | list {i : Field} (h : Regained "item" i) (hlink : i.source ≠ .link) {shared : Bool}
      (hshared : i.payload? = none → (shared = true ↔ i.form = .marked)) (name : String) :
      Regained name (ofElement name shared i)
  | object {fs : List (String × Field)} (hnames : ∀ e ∈ fs, isReserved e.1 = false)
      (h : ∀ e ∈ fs, Regained e.1 e.2) (name : String) : Regained name {
        name, description := name, source := .input, type := .object, nested := some fs }

/-- What is known of a field that is read from the value that another is rebuilt from. -/
structure Comes (f : Field) (raw : Value) (name : String) (g : Field) : Prop where
  regained : Regained name g
  formed : g.Formed
  link : f.source ≠ .link → g.source ≠ .link
  shares : g.payload? = none → (sharesDescription raw = true ↔ g.form = .marked)

theorem comes_of_marked {f g : Field} (h : f.Formed) {name : String}
    (hread : (Field.read name (.map f.markedEntries)).result = .ok g) :
    f.Comes (.map f.markedEntries) name g := by
  obtain ⟨hspoken, hsource⟩ := spoken_of_read h.freeOptions hread
  refine ⟨.marked hspoken, formed_of_read_marked h.freeOptions hread, ?_, fun _ => ?_⟩
  · rw [hsource]
    exact id
  · refine iff_of_true ?_ hspoken.form_eq
    rw [sharesDescription, markedEntries, marker?, ofMarker?_name]
    rfl

theorem form_ofElement {i : Field} (hlink : i.source ≠ .link) (name : String) (shared : Bool) :
    (Field.ofElement name shared i).form = .list i :=
  form_eq_list.mpr ⟨hlink, rfl, rfl⟩

theorem Comes.ofElement {f i g : Field} {raw : Value} (h : i.Comes raw "item" g)
    (hlink : i.source ≠ .link) (name : String) :
    f.Comes (.list [raw]) name (.ofElement name (sharesDescription raw) g) := by
  have hsource := h.link hlink
  refine ⟨.list h.regained hsource h.shares name, h.formed.ofElement name _, fun _ => hsource,
    fun _ => iff_of_false (by simp [sharesDescription]) ?_⟩
  simp [form_ofElement hsource]

/-- Nested fields that show a placeholder come back as one prompt. -/
theorem comes_of_exposed {f : Field} (raws : List (String × Value)) (name : String) :
    f.Comes (.map raws) name {
      name, description := name, source := .generate, type := .object
      generation := some (.ofSchema name raws none) } := by
  refine ⟨.marked (.generated rfl name .object), Field.Flat.formed ⟨rfl, rfl, rfl, by simp⟩,
    by simp, ?_⟩
  rintro ⟨⟩

theorem comes_of_nested {f : Field} {raws : List (String × Value)} {fs : List (String × Field)}
    (hraws : ∀ r ∈ raws, isReserved r.1 = false) (hnames : ∀ e ∈ fs, isReserved e.1 = false)
    (hregained : ∀ e ∈ fs, Regained e.1 e.2) (hformed : ∀ e ∈ fs, e.2.Formed) (name : String) :
    f.Comes (.map raws) name {
      name, description := name, source := .input, type := .object, nested := some fs } := by
  refine ⟨.object hnames hregained name, ?_, by simp, fun _ => iff_of_false ?_ ?_⟩
  · refine .intro .nil ?_ ?_ ?_ ?_ ?_ ?_
    · simp
    · rintro _ ⟨⟩
      exact hnames
    · rintro _ ⟨⟩
      exact hformed
    · simp
    · simp
    · simp
  · simp [sharesDescription, marker?_eq_none hraws]
  · simp [form]

/-- **What comes back for a formed field.** -/
theorem Formed.comes {f : Field} (h : f.Formed) {raw : Value} (hraw : f.Rebuilt raw)
    {name : String} {g : Field} (hread : (Field.read name raw).result = .ok g) :
    f.Comes raw name g := by
  have hformed := h
  -- by induction over the element and the nested fields
  induction h generalizing raw name g with
  | @intro f _ _ _ members _ item _ ihmembers ihitem =>
      cases hf : f.form with
      | marked =>
          obtain rfl := hraw.eq_of_marked hformed hf
          exact comes_of_marked hformed hread
      | list i =>
          obtain ⟨hlink, -, hi⟩ := form_eq_list.mp hf
          obtain ⟨rawItem, hitem, rfl⟩ := hraw.exists_of_list hformed hf
          simp only [Field.read, Outcome.result_map, map_eq_ok] at hread
          obtain ⟨i', hi', rfl⟩ := hread
          have hcomes := ihitem i hi hitem hi' (item i hi)
          exact hcomes.ofElement (by rwa [hformed.source_item hi]) name
      | object fs =>
          obtain ⟨-, -, hn⟩ := form_eq_object.mp hf
          obtain ⟨raws, hall, rfl⟩ := hraw.exists_of_object hformed hf
          have hnames := hformed.unreserved hn
          rw [read_rebuilt hall hnames] at hread
          split at hread
          · cases hread
            exact comes_of_exposed raws name
          · rw [Outcome.result_bind, bind_eq_ok] at hread
            obtain ⟨fs', hfs', hread⟩ := hread
            cases hread
            have hmember : ∀ e ∈ fs', isReserved e.1 = false ∧ Regained e.1 e.2 ∧ e.2.Formed := by
              intro e he
              obtain ⟨hreserved, v, hv, hread⟩ := exists_mem_of_readEntries hfs' he
              obtain ⟨e', he', -, hrebuilt⟩ := exists_of_forall₂ hall hv
              have hcomes := ihmembers fs hn e' he' hrebuilt hread (members fs hn e' he')
              exact ⟨hreserved, hcomes.regained, hcomes.formed⟩
            exact comes_of_nested (hall.unreserved hnames) (fun e he => (hmember e he).1)
              (fun e he => (hmember e he).2.1) (fun e he => (hmember e he).2.2) name

end Field

end Entity
