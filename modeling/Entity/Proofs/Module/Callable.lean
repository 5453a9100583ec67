import Entity.Proofs.Module.Blocks

/-!
# Entries that can be called

The entry of a table is a stand-in that raises, the name of a function before the tables, or one
function in brackets.  Main statement: the entries of a definition are so exactly if every text that
is put in brackets for it is one function there.
-/

namespace Entity.Module

open Entity.Text Entity.Formula

/-! ## Entries that can be called -/

/-- The text is one anonymous function. -/
def IsLambda (cs : List Char) : Prop := ∃ ps body, expressionOf cs = .ok (.lambda ps body)

/-- A text in brackets. -/
def inBrackets (text : List Char) : List Char := '(' :: (text ++ [')'])

theorem toList_bracketed (text : List Char) : (bracketed text).text.toList = inBrackets text := by
  simp [bracketed, inBrackets]

/-- The text of a stand-in begins with a name. -/
theorem head?_unavailable (field code : String) :
    (unavailable field code).text.toList.head? = some '_' := by
  delta unavailable
  simp only [String.toList_append, List.append_assoc]
  rfl

/-- An entry that can be called, with its functions before the tables. -/
inductive Entry.Callable (field : String) : Entry → Prop where
  | unavailable (code : String) : Callable field (unavailable field code)
  | function {name block : String} (hhead : headWord? block.toList = some name.toList) :
      Callable field { text := name, functions := [block] }
  | lambda {text : List Char} (hlambda : IsLambda (inBrackets text)) :
      Callable field (bracketed text)

/-- An entry in brackets can be called exactly if it is one anonymous function. -/
theorem callable_bracketed_iff {field : String} {text : List Char} :
    (bracketed text).Callable field ↔ IsLambda (inBrackets text) := by
  constructor
  · intro h
    generalize he : bracketed text = e at h
    cases h with
    | unavailable code =>
        have hhead : (bracketed text).text.toList.head? = some '_' := by
          rw [he]
          exact head?_unavailable field code
        rw [toList_bracketed] at hhead
        simp [inBrackets] at hhead
    | function hhead =>
        have hfunctions := congrArg Entry.functions he
        simp [bracketed] at hfunctions
    | lambda hlambda =>
        have htext := congrArg (fun e => e.text.toList) he
        simp only [toList_bracketed] at htext
        rwa [htext]
  · exact .lambda

/-! ## Texts in brackets -/

/-- The text that is put in brackets for code: an anonymous function, or a compiled formula. -/
def embedded? (table : EntryTable) (code : Option String) : Option (List Char) :=
  code.bind fun c =>
    (functionText table.parameters c.toList).toOption.filter (beginsWith "lambda".toList)

/-- The text that is put in brackets for a link: that of its code, or the condition on its
instances. -/
def embeddedLink? (c : Cascade) : Option (List Char) :=
  match c.selector with
  | some s => embedded? .filter s.text?
  | none => (condition? c).map fun code => "lambda item, context=None: ".toList ++ code.toList

theorem embedded?_eq_some {table : EntryTable} {code : Option String} {text : List Char} :
    embedded? table code = some text ↔
      ∃ c, code = some c ∧ functionText table.parameters c.toList = .ok text ∧
        beginsWith "lambda".toList text = true := by
  simp only [embedded?, Option.bind_eq_some_iff, Option.filter_eq_some_iff]
  refine exists_congr fun c => and_congr_right fun _ => and_congr_left fun _ => ?_
  exact ⟨eq_ok_of_toOption, fun h => by rw [h]; rfl⟩

/-- Code that has to be read as a function and does not begin as an anonymous one is not put in
brackets. -/
theorem embedded?_of_isFunctionSource {table : EntryTable} {code : String}
    (hsource : isFunctionSource (codeText code) = true)
    (hbegins : beginsWith "lambda".toList (codeText code) = false) :
    embedded? table (some code) = none := by
  refine Option.eq_none_iff_forall_ne_some.mpr fun text h => ?_
  obtain ⟨c, hc, htext, hlambda⟩ := embedded?_eq_some.mp h
  cases hc
  rcases functionText_eq_ok htext with ⟨-, -, rfl⟩ | ⟨hformula, -⟩
  · rw [hbegins] at hlambda
    cases hlambda
  · rw [hsource] at hformula
    cases hformula

theorem functionText_of_statementsOf {parameters code : String} {ss : List Statement}
    (hsource : isFunctionSource (codeText code) = true)
    (hread : statementsOf (codeText code) = .ok ss) :
    functionText parameters code.toList = .ok (codeText code) := by
  have htext : trim (dedent code.toList) = codeText code := rfl
  simp only [functionText, htext, hsource, if_true, hread]

theorem functionText_of_compile {parameters code text : String}
    (hsource : isFunctionSource (codeText code) = false)
    (hcompile : compile (String.ofList (codeText code)) parameters = .ok text) :
    functionText parameters code.toList = .ok text.toList := by
  have htext : trim (dedent code.toList) = codeText code := rfl
  simp only [functionText, htext, hsource, Bool.false_eq_true, if_false, hcompile]
  rfl

/-- Code whose head is plain has an entry that can be called exactly if what is put in brackets for
it is one function there. -/
theorem Entry.Route.callable_iff {table : EntryTable} {field : String} {code : Option String}
    {e : Entry} (h : e.Route table field code) (hplain : ∀ c, code = some c → NamedPlainly c) :
    e.Callable field ↔ ∀ text, embedded? table code = some text → IsLambda (inBrackets text) := by
  have hnone (he : e.Callable field) (hembedded : embedded? table code = none) :
      e.Callable field ↔
        ∀ text, embedded? table code = some text → IsLambda (inBrackets text) :=
    iff_of_true he (by simp [hembedded])
  have hsome {text : List Char} (he : e = bracketed text)
      (hembedded : embedded? table code = some text) : e.Callable field ↔
        ∀ text, embedded? table code = some text → IsLambda (inBrackets text) := by
    rw [he, callable_bracketed_iff, hembedded]
    simp
  cases h with
  | missing hcode =>
      refine hnone (.unavailable _) ?_
      cases code with
      | none => rfl
      | some c =>
          obtain rfl : c = "" := by
            by_contra hc
            simp [nonEmpty?, hc] at hcode
          cases table <;> decide +kernel
  | unreadable htext =>
      refine hnone (.unavailable _) ?_
      simp [embedded?, htext, Except.toOption]
  | unnamed hsource hbegins =>
      exact hnone (.unavailable _) (embedded?_of_isFunctionSource hsource hbegins)
  | lambda hsource hread hbegins =>
      exact hsome rfl (embedded?_eq_some.mpr
        ⟨_, rfl, functionText_of_statementsOf hsource hread, hbegins⟩)
  | formula hsource hcompile =>
      exact hsome rfl (embedded?_eq_some.mpr
        ⟨_, rfl, functionText_of_compile hsource hcompile, beginsWith_compile hcompile⟩)
  | function hsource _ hbegins hname =>
      refine hnone (.function ?_) (embedded?_of_isFunctionSource hsource hbegins)
      rw [String.toList_ofList]
      exact headWord?_renameFunction (isWord_functionName table field)
        (hplain _ rfl hsource _ hname)

/-- The entry of a link whose code has a plain head can be called exactly if what is put in brackets
for it is one function there. -/
theorem ofLink_callable_iff {field : String} {c : Cascade} {e : Entry}
    (h : (Entry.ofLink field c).result = .ok (some e))
    (hplain : ∀ s, c.selector.bind Computation.text? = some s → NamedPlainly s) :
    e.Callable field ↔ ∀ text, embeddedLink? c = some text → IsLambda (inBrackets text) := by
  rcases route_of_ofLink h with ⟨s, hselector, hroute⟩ | ⟨hselector, code, hcode, rfl⟩
  · rw [hselector] at hplain
    rw [embeddedLink?, hselector]
    exact hroute.callable_iff hplain
  · have hentry : Entry.ofCondition code =
        bracketed ("lambda item, context=None: ".toList ++ code.toList) := by
      rw [bracketed, String.ofList_append, String.ofList_toList, String.ofList_toList,
        ← String.append_assoc]
      rfl
    rw [hentry, callable_bracketed_iff, embeddedLink?, hselector, hcode]
    simp

/-! ## Tables -/

/-- What is put in brackets in a table of compute functions. -/
def embeddedComputes (fs : Entries String FunctionField) : List (List Char) :=
  fs.filterMap fun f => match f.2 with
    | .computation c => embedded? .compute c.text?
    | .generation _ => none

/-- What is put in brackets in a table of link filters. -/
def embeddedFilters (cs : Entries String Cascade) : List (List Char) :=
  cs.filterMap fun c => embeddedLink? c.2

theorem forall_mem_cons_filterMap {α β : Type} {f : α → Option β} {a : α} {as : List α}
    {p : β → Prop} : (∀ b ∈ (a :: as).filterMap f, p b) ↔
      (∀ b, f a = some b → p b) ∧ ∀ b ∈ as.filterMap f, p b := by
  cases hf : f a with
  | none => simp [List.filterMap_cons_none hf]
  | some b => simp [List.filterMap_cons_some hf]

theorem computeEntries_callable_iff {fs : Entries String FunctionField}
    {t : List (String × Entry)} (h : (computeEntries fs).result = .ok t)
    (hplain : ∀ name c, (name, FunctionField.computation c) ∈ fs →
      ∀ s, c.text? = some s → NamedPlainly s) :
    (∀ r ∈ t, r.2.Callable r.1) ↔ ∀ text ∈ embeddedComputes fs, IsLambda (inBrackets text) := by
  induction fs generalizing t with
  | nil =>
      cases h
      exact iff_of_true (List.forall_mem_nil _) (List.forall_mem_nil _)
  | cons f fs ih =>
      obtain ⟨name, f⟩ := f
      have hrest := fun name c hc => hplain name c (List.mem_cons_of_mem _ hc)
      cases f with
      | generation g =>
          rw [computeEntries] at h
          exact ih h hrest
      | computation c =>
          rw [computeEntries, Outcome.result_bind, bind_eq_ok] at h
          obtain ⟨e, he, h⟩ := h
          rw [Outcome.result_bind, bind_eq_ok] at h
          obtain ⟨rest, hentries, h⟩ := h
          cases h
          rw [List.forall_mem_cons, ih hentries hrest]
          unfold embeddedComputes
          rw [forall_mem_cons_filterMap]
          exact and_congr_left' ((route_of_ofCode he).callable_iff
            (hplain name c List.mem_cons_self))

theorem embeddedLink?_of_ofLink {field : String} {c : Cascade}
    (h : (Entry.ofLink field c).result = .ok none) : embeddedLink? c = none := by
  rw [ofLink_eq] at h
  cases hselector : c.selector with
  | some s =>
      rw [hselector, Outcome.result_map] at h
      obtain ⟨e, -, heq⟩ := map_eq_ok.mp h
      cases heq
  | none =>
      rw [hselector, Outcome.result_pure, Except.ok.injEq, Option.map_eq_none_iff] at h
      simp [embeddedLink?, hselector, h]

theorem filterEntries_callable_iff {cs : Entries String Cascade} {t : List (String × Entry)}
    (h : (filterEntries cs).result = .ok t)
    (hplain : ∀ c ∈ cs, ∀ s, c.2.selector.bind Computation.text? = some s → NamedPlainly s) :
    (∀ r ∈ t, r.2.Callable r.1) ↔ ∀ text ∈ embeddedFilters cs, IsLambda (inBrackets text) := by
  induction cs generalizing t with
  | nil =>
      cases h
      exact iff_of_true (List.forall_mem_nil _) (List.forall_mem_nil _)
  | cons f cs ih =>
      obtain ⟨name, c⟩ := f
      have hrest := fun c hc => hplain c (List.mem_cons_of_mem _ hc)
      rw [filterEntries, Outcome.result_bind, bind_eq_ok] at h
      obtain ⟨o, ho, h⟩ := h
      rw [embeddedFilters, forall_mem_cons_filterMap]
      cases o with
      | none =>
          rw [ih h hrest, embeddedLink?_of_ofLink ho]
          exact (and_iff_right (by simp)).symm
      | some e =>
          rw [Outcome.result_bind, bind_eq_ok] at h
          obtain ⟨rest, hentries, h⟩ := h
          cases h
          rw [List.forall_mem_cons, ih hentries hrest]
          exact and_congr_left' (ofLink_callable_iff ho (hplain _ List.mem_cons_self))

/-! ## Definitions -/

/-- All that is put in brackets in the tables of a definition. -/
def embeddedTexts (d : Definition) : List (List Char) :=
  embeddedComputes d.functions ++ embeddedFilters d.cascades

/-- The entries of a definition can be called exactly if every text that is put in brackets for them
is one function there. -/
theorem rows_callable_iff {d : Definition} {computes filters : List (String × Entry)}
    (h : (code d).result = .ok (computes, filters)) (hplain : ∀ c ∈ codes d, NamedPlainly c) :
    ((∀ r ∈ computes, r.2.Callable r.1) ∧ ∀ r ∈ filters, r.2.Callable r.1) ↔
      ∀ text ∈ embeddedTexts d, IsLambda (inBrackets text) := by
  rw [code, Outcome.result_bind, bind_eq_ok] at h
  obtain ⟨computes', hcomputes, h⟩ := h
  rw [Outcome.result_bind, bind_eq_ok] at h
  obtain ⟨filters', hfilters, h⟩ := h
  cases h
  rw [embeddedTexts, List.forall_mem_append, computeEntries_callable_iff hcomputes,
    filterEntries_callable_iff hfilters]
  · intro c hc s hs
    refine hplain s (List.mem_append_right _ (List.mem_filterMap.mpr ⟨c, hc, hs⟩))
  · intro name c hc s hs
    exact hplain s (List.mem_append_left _ (List.mem_filterMap.mpr ⟨_, hc, hs⟩))

/-! ### Fields with anonymous functions -/

/-- The tree is an anonymous function. -/
def isLambda : Tree → Bool
  | .lambda _ _ => true
  | _ => false

theorem isLambda_iff {cs : List Char} :
    IsLambda cs ↔ (expressionOf cs).toOption.any isLambda = true := by
  constructor
  · rintro ⟨ps, body, h⟩
    rw [h]
    rfl
  · intro h
    obtain ⟨t, hread, ht⟩ := exists_of_any cs isLambda h
    cases t with
    | lambda ps body => exact ⟨ps, body, hread⟩
    | _ => cases ht

namespace Parcel

/-- The labels of a parcel that are large enough. -/
def labels : Cascade where
  operator := .outgoing
  target := "Label"
  filters := [{ field := "net", comparator := .gt, value := .int 3 }]

/-- A computation that is an anonymous function, and a link with a condition. -/
def definition : Definition where
  raw := [("$type", .text "Parcel"),
    ("weight", .map [("$compute", .text "lambda r: r.net + 2")]),
    ("labels", .text "-> Label[net>3]")]
  type := "Parcel"
  id := none
  version := 1
  context := none
  parent := none
  seed := .null
  enrichments := []
  fields := [
    ("weight", {
      name := "weight"
      description := "lambda r: r.net + 2"
      source := .compute
      compute := some (.code "lambda r: r.net + 2") }),
    ("labels", { name := "labels", description := "Label", source := .link, cascade := some labels })]
  cascades := [("labels", labels)]
  events := []
  schedules := []
  crons := []
  migrations := []

/-- The rows of the tables of a module. -/
def tables : List (String × Entry) × List (String × Entry) :=
  ([("weight", { text := "(lambda r: r.net + 2)" })],
    [("labels", { text := "(lambda item, context=None: _match(item, 'net', '>', 3))" })])

theorem embeddedTexts_definition : embeddedTexts definition =
    ["lambda r: r.net + 2".toList,
      "lambda item, context=None: _match(item, 'net', '>', 3)".toList] := by
  decide +kernel

end Parcel

/-- The general statement for an anonymous function and a condition. -/
theorem rows_callable_iff_parcel : (Definition.read Parcel.definition.raw).result =
    .ok Parcel.definition ∧ (code Parcel.definition).result = .ok Parcel.tables ∧
    (∀ c ∈ codes Parcel.definition, NamedPlainly c) ∧
    (∀ r ∈ Parcel.tables.1, r.2.Callable r.1) ∧ ∀ r ∈ Parcel.tables.2, r.2.Callable r.1 := by
  have hcode : (code Parcel.definition).result = .ok Parcel.tables :=
    eq_ok_of_toOption (by decide +kernel)
  have hplain : ∀ c ∈ codes Parcel.definition, NamedPlainly c := by
    have hcodes : codes Parcel.definition = ["lambda r: r.net + 2"] := rfl
    rw [hcodes, List.forall_mem_singleton]
    intro _ name hname
    have hnone : (functionName? (codeText "lambda r: r.net + 2")).toOption = some none := by
      decide +kernel
    rw [eq_ok_of_toOption hnone] at hname
    cases hname
  refine ⟨rfl, hcode, hplain, (rows_callable_iff hcode hplain).mpr ?_⟩
  rw [Parcel.embeddedTexts_definition, List.forall_mem_cons, List.forall_mem_singleton]
  exact ⟨isLambda_iff.mpr (by decide +kernel), isLambda_iff.mpr (by decide +kernel)⟩

/-! ### A formula that begins as an anonymous function does -/

namespace Rate

/-- A formula whose first name begins with the word of anonymous functions. -/
def definition : Definition where
  raw := [("$type", .text "T"), ("double", .map [("$compute", .text "lambdaRate * 2")])]
  type := "T"
  id := none
  version := 1
  context := none
  parent := none
  seed := .null
  enrichments := []
  fields := [
    ("double", {
      name := "double"
      description := "lambdaRate * 2"
      source := .compute
      compute := some (.code "lambdaRate * 2") })]
  cascades := []
  events := []
  schedules := []
  crons := []
  migrations := []

/-- The rows of the compute functions. -/
def computes : List (String × Entry) := [("double", { text := "(lambdaRate * 2)" })]

end Rate

/-- The formula is put in brackets as it is, and what stands there is a product and no function. -/
theorem rows_not_callable_rate : (Definition.read Rate.definition.raw).result =
    .ok Rate.definition ∧ (code Rate.definition).result = .ok (Rate.computes, []) ∧
    (∃ op left right, expressionOf "(lambdaRate * 2)".toList = .ok (.binary op left right)) ∧
    ¬ ∀ r ∈ Rate.computes, r.2.Callable r.1 := by
  have hcode : (code Rate.definition).result = .ok (Rate.computes, []) :=
    eq_ok_of_toOption (by decide +kernel)
  obtain ⟨t, hread, ht⟩ := exists_of_any "(lambdaRate * 2)".toList
    (fun
      | .binary _ _ _ => true
      | _ => false) (by decide +kernel)
  cases t with
  | binary op left right =>
      refine ⟨rfl, hcode, ⟨op, left, right, hread⟩, fun h => ?_⟩
      have hcallable : (bracketed "lambdaRate * 2".toList).Callable "double" :=
        h ("double", { text := "(lambdaRate * 2)" }) List.mem_cons_self
      obtain ⟨ps, body, hlambda⟩ := callable_bracketed_iff.mp hcallable
      have hsame : inBrackets "lambdaRate * 2".toList = "(lambdaRate * 2)".toList := rfl
      rw [hsame, hread] at hlambda
      cases hlambda
  | _ => cases ht

end Entity.Module
