import Entity.Proofs.Serialized.Alike
import Entity.Proofs.Serialized.Classification

/-!
# Settled fields

A field that came back is rebuilt and read once more.  Main statement: it is written as before
exactly when it is settled, which says of its texts that reading them finds them as they are.
-/

namespace Entity

open Entries Entity.Text

/-! ## Settled texts -/

namespace Field

/-- The text of a plain input has no type suffix, and alternatives exactly if the input has them,
separated as an enumeration is written. -/
structure PlainSettled (f : Field) : Prop where
  text : f.inputText = f.description
  unsuffixed : typeSuffix? f.description.toList = none
  values : enumValues? f.description = f.enumValues

/-- The text that a marked field is written with is read as what the field has: as its cascade, if
it has one, as a plain input, or without a type suffix and with the placeholders of the field. -/
def TextSettled (f : Field) : Prop :=
  match f.source with
  | .input => f.ReadsBack (f.cascade.map Cascade.declared) ∧ (f.cascade = none → f.PlainSettled)
  | .link => f.ReadsBack (f.cascade.map Cascade.declared) ∧ f.cascade.isSome
  | .generate => typeSuffix? f.literal.toList = none ∧ ∀ g, f.generation = some g → g.Listed
  | .sync => typeSuffix? f.literal.toList = none
  | _ => True

/-- The texts of the field, its element and its nested fields are settled, and no object shows a
placeholder. -/
inductive Settled : Field → Prop
  | marked {f : Field} (hf : f.form = .marked) (h : f.TextSettled) : Settled f
  | list {f i : Field} (hf : f.form = .list i) (h : Settled i) : Settled f
  | object {f : Field} {fs : List (String × Field)} (hf : f.form = .object fs)
      (hexposes : ¬ f.Exposes) (h : ∀ e ∈ fs, Settled e.2) : Settled f

/-- The text of a link is settled when its cascade is canonical. -/
theorem textSettled_of_canonical {f : Field} {c : Cascade} (hs : f.source = .link)
    (hcascade : f.cascade = some c) (h : c.declared.Canonical) : f.TextSettled := by
  have hliteral : f.literal = c.declared.toGrammar := by
    simp only [literal, hcascade]
    rfl
  simp only [TextSettled, hs, hcascade, Option.map_some, Option.isSome_some, and_true]
  exact readsBack_of_canonical hs hliteral h

section Forms

variable {f i : Field} {fs : List (String × Field)}

theorem settled_iff_of_marked (hf : f.form = .marked) : f.Settled ↔ f.TextSettled := by
  constructor
  · intro h
    cases h with
    | marked _ h => exact h
    | list hf' | object hf' => simp [hf] at hf'
  · exact .marked hf

theorem settled_iff_of_list (hf : f.form = .list i) : f.Settled ↔ i.Settled := by
  constructor
  · intro h
    cases h with
    | list hf' h =>
        rw [hf] at hf'
        cases hf'
        exact h
    | marked hf' | object hf' => simp [hf] at hf'
  · exact .list hf

theorem settled_iff_of_object (hf : f.form = .object fs) :
    f.Settled ↔ ¬ f.Exposes ∧ ∀ e ∈ fs, e.2.Settled := by
  constructor
  · intro h
    cases h with
    | object hf' hexposes h =>
        rw [hf] at hf'
        cases hf'
        exact ⟨hexposes, h⟩
    | marked hf' | list hf' => simp [hf] at hf'
  · rintro ⟨hexposes, h⟩
    exact .object hf hexposes h

end Forms

/-! ## Marked fields -/

section Spoken

variable {name : String} {options : Entries String Value} {f : Field}

theorem Spoken.options_eq (h : Spoken name options f) : f.options = options := by
  cases h <;> rfl

theorem Spoken.tidy (h : Spoken name options f) : ∀ c, f.cascade = some c → c.declared.Tidy := by
  cases h with
  | kept hread | linked hread =>
      rintro _ ⟨⟩
      have htidy := Cascade.tidy_of_read? hread
      exact ⟨htidy.prompt, htidy.predicate, htidy.route, rfl, rfl⟩
  | _ => simp [ofAggregate]

/-- What comes back for a cascade is what its text denotes. -/
theorem readsBack_of_read {f g : Field} (h : f.Formed) {name : String}
    (hread : (Field.read name (.map f.markedEntries)).result = .ok g) :
    f.ReadsBack (g.cascade.map Cascade.declared) := by
  obtain ⟨-, hback⟩ := givesBack_of_read h hread
  obtain ⟨c, hc, hcascade⟩ := hback.cascade
  have hdeclared : g.cascade.map Cascade.declared = c := by
    rw [hcascade]
    cases c with
    | none => rfl
    | some c =>
        have htidy : c.Tidy := by
          unfold ReadsBack at hc
          split at hc
          · obtain ⟨text, -, hread⟩ := hc
            exact Cascade.tidy_of_read? hread
          · exact Cascade.tidy_of_read? hc
          · cases hc
        have hrecast : (f.recast c).declared = c.declared := by
          unfold recast
          split <;> rfl
        rw [Option.map_some, Option.map_some, hrecast, htidy.declared_eq]
  rwa [hdeclared]

end Spoken

/-! ### Plain inputs -/

section Plain

variable {text : String} (hsuffix : typeSuffix? text.toList = none)

theorem ofInputText_of_suffix {rest : List Char} {type : Primitive}
    (hsuffix : typeSuffix? text.toList = some (rest, type)) (name : String) :
    ofInputText name text =
      { name, description := String.ofList rest, source := .input, type } := by
  simp only [ofInputText, splitTypeSuffix, hsuffix]

include hsuffix

theorem ofInputText_of_values {vs : List String} (hvalues : enumValues? text = some vs)
    (name : String) : ofInputText name text =
      { name, description := trimmed text, source := .input, type := .enum
        enumValues := some vs } := by
  simp only [ofInputText, splitTypeSuffix, hsuffix, hvalues]

theorem ofInputText_of_plain (hvalues : enumValues? text = none) (name : String) :
    ofInputText name text = { name, description := text, source := .input } := by
  simp only [ofInputText, splitTypeSuffix, hsuffix, hvalues]

end Plain

/-- A settled text is read as the description and the alternatives that it was written for. -/
theorem PlainSettled.exists_ofInputText_eq {f : Field} (h : f.PlainSettled)
    (htrim : ∀ vs, f.enumValues = some vs → trimmed f.description = f.description)
    (name : String) : ∃ type, ofInputText name f.inputText = {
      name, description := f.description, source := .input, type
      enumValues := f.enumValues } := by
  rw [h.text]
  cases hvalues : f.enumValues with
  | none => exact ⟨_, ofInputText_of_plain h.unsuffixed (h.values.trans hvalues) name⟩
  | some vs =>
      rw [ofInputText_of_values h.unsuffixed (h.values.trans hvalues), htrim vs hvalues]
      exact ⟨_, rfl⟩

/-- Where no enumeration is empty, the alternatives tell whether there is one. -/
theorem enumValues_of_alternatives {f : Field} {vs : List String}
    (hf : ∀ vs, f.enumValues = some vs → vs ≠ []) (h : f.alternatives = vs) :
    f.enumValues = if vs = [] then none else some vs := by
  unfold alternatives at h
  cases hvalues : f.enumValues with
  | none =>
      rw [hvalues, Option.getD_none] at h
      rw [if_pos h.symm]
  | some ws =>
      rw [hvalues, Option.getD_some] at h
      rw [if_neg (h ▸ hf ws hvalues), h]

/-- A text that is read as the description and the alternatives it was written for is settled. -/
theorem plainSettled_of_ofInputText {f : Field} (hliteral : f.literal = f.description)
    (hvalues : ∀ vs, f.enumValues = some vs → Alternatives vs) (name : String)
    (hdescription : (ofInputText name f.inputText).description = f.description)
    (halternatives : (ofInputText name f.inputText).alternatives = f.alternatives) :
    f.PlainSettled := by
  have hplain : f.alternatives = [] → f.inputText = f.description := by
    intro hempty
    rw [inputText, if_pos hempty, hliteral]
  cases hsuffix : typeSuffix? f.inputText.toList with
  | some found =>
      obtain ⟨rest, type⟩ := found
      rw [ofInputText_of_suffix hsuffix] at hdescription halternatives
      have hrest : String.ofList rest = f.inputText :=
        hdescription.trans (hplain halternatives.symm).symm
      -- without its suffix the text is shorter, and it cannot be the description
      have hsame : (splitTypeSuffix f.inputText).1 = f.inputText := by
        rw [splitTypeSuffix, hsuffix]
        exact hrest
      rw [splitTypeSuffix_eq_self_iff, hsuffix] at hsame
      cases hsame
  | none =>
      have hfound := enumValues_of_alternatives (fun vs h => (hvalues vs h).ne_nil)
        halternatives.symm
      cases henum : enumValues? f.inputText with
      | none =>
          rw [ofInputText_of_plain hsuffix henum] at hdescription hfound
          have hsame : f.inputText = f.description := hdescription
          exact ⟨hsame, hsame ▸ hsuffix, by rw [← hsame, henum, hfound]; rfl⟩
      | some vs =>
          rw [ofInputText_of_values hsuffix henum] at hdescription halternatives hfound
          have hgood := alternatives_of_enumValues? henum
          have halternatives : vs = f.alternatives := halternatives
          have htext : f.inputText = enumText vs := by
            rw [inputText, ← halternatives, if_neg hgood.ne_nil]
          have hsame : f.inputText = f.description := by
            rw [← hdescription, htext, hgood.trimmed_enumText]
          refine ⟨hsame, hsame ▸ hsuffix, ?_⟩
          rw [← hsame, henum, hfound]
          exact (if_neg hgood.ne_nil).symm

/-! ### Paths -/

/-- The text that a path is written with, or else the text that it was read from. -/
def writtenPath (text : String) : String :=
  match nonEmpty? (some (pathText text)) with
  | some path => "$" ++ path
  | none => text

theorem literal_of_path (name text : String) (type : Primitive) (options : Entries String Value) :
    literal {
      name, description := text, source := .sync, type
      syncPath := some (pathText text), options } = writtenPath text := by
  rw [literal, writtenPath]
  dsimp only
  cases nonEmpty? (some (pathText text)) <;> rfl

/-- A text is written as it is, or behind a dollar sign. -/
theorem writtenPath_cases (text : String) : writtenPath text = text ∨
    pathText text = text ∧ writtenPath text = "$" ++ text := by
  unfold writtenPath pathText
  split
  · rename_i path hpath
    split at hpath
    · rename_i cs hcs
      left
      rw [← Option.some.inj (eq_of_nonEmpty? hpath), ← String.toList_inj, hcs]
      simp
    · rw [← Option.some.inj (eq_of_nonEmpty? hpath)]
      exact Or.inr ⟨rfl, rfl⟩
  · exact Or.inl rfl

theorem length_writtenPath_le (text : String) :
    (writtenPath text).toList.length ≤ text.toList.length + 1 := by
  rcases writtenPath_cases text with h | ⟨-, h⟩
  · rw [h]
    omega
  · rw [h, String.toList_append, List.length_append, Nat.add_comm]
    rfl

/-- A suffix takes more off than the dollar sign adds, and what is written again has none. -/
theorem unsuffixed_of_writtenPath {text : String}
    (h : writtenPath (splitTypeSuffix text).1 = text) : typeSuffix? text.toList = none := by
  have hlength := length_writtenPath_le (splitTypeSuffix text).1
  rw [h] at hlength
  cases hsuffix : typeSuffix? text.toList with
  | none => rfl
  | some found =>
      obtain ⟨rest, type⟩ := found
      have hless := length_of_typeSuffix? hsuffix
      rw [splitTypeSuffix, hsuffix, String.toList_ofList] at hlength
      omega

/-- A path that is written is read as the same path. -/
theorem pathText_writtenPath (text : String) : pathText (writtenPath text) = pathText text := by
  rcases writtenPath_cases text with h | ⟨hpath, h⟩
  · rw [h]
  · rw [h, hpath, pathText, String.toList_append]
    exact String.ofList_toList

theorem writtenPath_writtenPath (text : String) :
    writtenPath (writtenPath text) = writtenPath text := by
  rw [writtenPath, pathText_writtenPath]
  conv_rhs => rw [writtenPath]
  cases h : nonEmpty? (some (pathText text)) with
  | some path => rfl
  | none => simp only [writtenPath, h]

/-! ### What a marked field is read as -/

section Marked

variable {name : String} {options : Entries String Value} {f g : Field}

/-- A settled field comes back as it is, but for a description that is not written down. -/
theorem Spoken.exists_read (h : Spoken name options f) (hoptions : FreeOptions options)
    (hsettled : f.TextSettled) : ∃ description,
      (Field.read name (.map f.markedEntries)).result = .ok { f with description } ∧
        ({ f with description } : Field).literal = f.literal := by
  have hfree : FreeOptions f.options := h.options_eq ▸ hoptions
  cases h with
  | plain hvalues type =>
      obtain ⟨hback, hplain⟩ := hsettled
      obtain ⟨type', htext⟩ := (hplain rfl).exists_ofInputText_eq
        (fun vs hvs => (hvalues vs hvs).2) name
      refine ⟨_, ?_, rfl⟩
      rw [result_read_input hfree rfl, hback]
      simp only [Option.map_none, Except.map, htext]
  | kept hread type =>
      obtain ⟨hback, -⟩ := hsettled
      refine ⟨_, ?_, rfl⟩
      rw [result_read_input hfree rfl, hback]
      simp only [Option.map_some, Except.map, (Cascade.tidy_of_read? hread).declared_eq]
  | @generated asked hmodel description type =>
      obtain ⟨hsuffix, hlisted⟩ := hsettled
      have hprompt : (splitTypeSuffix asked.prompt).1 = asked.prompt :=
        (splitTypeSuffix_eq_self_iff _).mpr hsuffix
      have hasked : { Generation.ofPrompt asked.prompt with
          schema := asked.schema, model := nonEmpty? asked.model } = asked := by
        rw [hmodel, Generation.ofPrompt, ← hlisted asked rfl]
      refine ⟨asked.prompt, ?_, rfl⟩
      rw [result_read_generate hfree rfl]
      exact congrArg Except.ok (by simp only [literal, hprompt, Option.bind_some, hasked])
  | computed code type =>
      have hcode : (nonEmpty? (some code)).getD code = code := by
        cases h : nonEmpty? (some code) with
        | none => rfl
        | some code' => exact (Option.some.inj (eq_of_nonEmpty? h)).symm
      refine ⟨code, ?_, rfl⟩
      rw [result_read_compute hfree rfl]
      exact congrArg Except.ok (by simp only [literal, code?, Option.bind_none, Option.none_or,
        Option.bind_some, Computation.text?, hcode])
  | synced text type =>
      have hliteral := literal_of_path name text type options
      have hback := literal_of_path name (writtenPath text) type options
      rw [pathText_writtenPath, writtenPath_writtenPath] at hback
      refine ⟨writtenPath text, ?_, hback.trans hliteral.symm⟩
      have hsuffix : (splitTypeSuffix (writtenPath text)).1 = writtenPath text := by
        rw [splitTypeSuffix_eq_self_iff, ← hliteral]
        exact hsettled
      rw [result_read_sync hfree rfl, hliteral, hsuffix, pathText_writtenPath]
  | @unreadable text hparts type =>
      refine ⟨text, ?_, rfl⟩
      rw [result_read_aggregate hfree rfl]
      simp only [literal, Aggregate.toText, ofAggregateText, hparts, result_degraded]
      rfl
  | @aggregated a path hpath type =>
      refine ⟨(ofAggregate name ⟨some a, String.ofList path⟩).description, ?_, rfl⟩
      have htext : literal { ofAggregate name ⟨some a, String.ofList path⟩ with type, options } =
          Aggregate.toText ⟨some a, String.ofList path⟩ := rfl
      rw [result_read_aggregate hfree rfl, htext]
      simp only [ofAggregateText, aggregateParts?_toText a hpath, ofName?_toLower_name]
      rfl
  | @matched target htrim type =>
      have hliteral : literal {
          name, description := target, source := .fuzzy, type
          fuzzyTarget := some target, options } = target := by
        rw [literal]
        dsimp only
        cases h : nonEmpty? (some target) with
        | none => rfl
        | some target' => exact (Option.some.inj (eq_of_nonEmpty? h)).symm
      refine ⟨target, ?_, rfl⟩
      rw [result_read_fuzzy hfree rfl, hliteral, htrim]
  | unlinked htext =>
      obtain ⟨-, hcascade⟩ := hsettled
      cases hcascade
  | @linked _ c hread listed code hcode =>
      obtain ⟨⟨text, htext, hback⟩, -⟩ := hsettled
      have hdeclared : (ofCascade name listed c code options).cascade.map Cascade.declared =
          some c := congrArg some (Cascade.tidy_of_read? hread).declared_eq
      have hselected : (ofCascade name listed c code options).code? = code := by
        cases code <;> rfl
      rw [hdeclared] at hback
      refine ⟨(ofCascade name listed c code options).description, ?_, rfl⟩
      rw [result_read_link hfree rfl, htext, hselected, hcode]
      simp only [Except.bind, hback]
      rfl

/-- A field that comes back as it was written is settled. -/
theorem Spoken.textSettled (h : Spoken name options f) (hf : f.Formed)
    (hread : (Field.read name (.map f.markedEntries)).result = .ok g)
    (hsame : g.serialize = f.serialize) : f.TextSettled := by
  have hfree := hf.freeOptions
  have hliteral := literal_eq_of_serialize hsame
  have hback := readsBack_of_read hf hread
  rw [declared_eq_of_serialize hsame h.tidy (spoken_of_read hfree hread).1.tidy] at hback
  cases h with
  | @plain description enumValues hvalues type =>
      refine ⟨hback, fun _ => ?_⟩
      rw [result_read_input hfree rfl, hback] at hread
      obtain ⟨description', type', enumValues', htext, -⟩ := exists_ofInputText_eq name
        (inputText { name, description, source := .input, type, enumValues, options })
      simp only [Option.map_none, Except.map, htext] at hread
      obtain rfl := Except.ok.inj hread
      have halternatives := alternatives_eq_of_serialize hsame
      refine plainSettled_of_ofInputText rfl (fun vs hvs => (hvalues vs hvs).1) name ?_ ?_
      · rw [htext]
        exact hliteral
      · rw [htext]
        exact halternatives
  | kept hread type => exact ⟨hback, by simp⟩
  | @generated asked hmodel description type =>
      rw [result_read_generate hfree rfl] at hread
      have hwritten : literal {
          name, description, source := .generate, type
          generation := some asked, options } = asked.prompt := rfl
      rw [hwritten] at hread hliteral
      obtain rfl := Except.ok.inj hread
      have hprompt : (splitTypeSuffix asked.prompt).1 = asked.prompt := hliteral
      have hnames := placeholders_eq_of_serialize hsame
      simp only [Option.map_some, Generation.ofPrompt, hprompt, Option.some.injEq] at hnames
      refine ⟨(splitTypeSuffix_eq_self_iff _).mp hprompt, ?_⟩
      rintro _ ⟨⟩
      exact hnames.symm
  | synced text type =>
      rw [result_read_sync hfree rfl] at hread
      rw [← Except.ok.inj hread, literal_of_path] at hliteral
      exact unsuffixed_of_writtenPath hliteral
  | @unlinked text htext =>
      obtain ⟨text', htext', hnone⟩ := hback
      cases isSome_of_linkText htext htext' hnone
  | linked hread listed hcode => exact ⟨hback, rfl⟩
  | _ => trivial

end Marked

/-! ## Fields that do not change -/

/-- The field is written as before when it is rebuilt and read again under a name. -/
def Stable (f : Field) (name : String) : Prop :=
  ∃ raw g, f.Rebuilt raw ∧ (Field.read name raw).result = .ok g ∧ g.serialize = f.serialize

theorem Stable.rereads {f : Field} {name : String} (h : f.Stable name) : f.Rereads := by
  obtain ⟨raw, g, hraw, hread, -⟩ := h
  exact hraw.rereads hread

theorem stable_iff_of_read {f g : Field} {raw : Value} (hraw : f.Rebuilt raw) {name : String}
    (hread : (Field.read name raw).result = .ok g) :
    f.Stable name ↔ g.serialize = f.serialize := by
  constructor
  · rintro ⟨raw', g', hraw', hread', hsame⟩
    obtain rfl := hraw'.unique hraw
    rw [hread] at hread'
    rwa [Except.ok.inj hread']
  · intro hsame
    exact ⟨raw, g, hraw, hread, hsame⟩

/-- Named fields are written as before exactly when each of them is. -/
theorem AllRebuilt.serializeAll_eq_iff {fs fs' : List (String × Field)}
    {raws : List (String × Value)} (h : AllRebuilt fs raws) (hread : AllRead raws fs') :
    serializeAll fs' = serializeAll fs ↔ ∀ e ∈ fs, e.2.Stable e.1 := by
  induction h generalizing fs' with
  | nil =>
      cases hread
      simp
  | @cons e r fs raws hr _ ih =>
      cases hread with
      | @cons _ e' _ fs' he hrest =>
          obtain ⟨name, f⟩ := e
          obtain ⟨name', g⟩ := e'
          obtain ⟨rfl, hraw⟩ := hr
          obtain ⟨rfl, hg⟩ := he
          rw [List.forall_mem_cons, ← ih hrest, stable_iff_of_read hraw hg, serializeAll,
            serializeAll]
          simp

theorem allRead_of_readEntries {raws : List (String × Value)} {fs : List (String × Field)}
    (h : (readEntries raws).result = .ok fs) (hraws : ∀ r ∈ raws, isReserved r.1 = false) :
    AllRead raws fs := by
  induction raws generalizing fs with
  | nil =>
      cases h
      exact .nil
  | cons r raws ih =>
      rw [readEntries, if_neg (by simp [hraws r (by simp)]), Outcome.result_bind,
        bind_eq_ok] at h
      obtain ⟨f, hf, h⟩ := h
      rw [Outcome.result_bind, bind_eq_ok] at h
      obtain ⟨fs, hfs, h⟩ := h
      cases h
      exact .cons ⟨rfl, hf⟩ (ih hfs fun r' hr' => hraws r' (by simp [hr']))

/-- A mapping of nested fields that is read as an object shows no placeholder. -/
theorem exists_allRead_of_read {fs : List (String × Field)} {raws : List (String × Value)}
    (h : AllRebuilt fs raws) (hnames : ∀ e ∈ fs, isReserved e.1 = false) {name : String} {g : Field}
    (hread : (Field.read name (.map raws)).result = .ok g) (hsource : g.source = .input) :
    Template.valueHasPlaceholder (.map raws) = false ∧ ∃ fs', AllRead raws fs' ∧
      g = { name, description := name, source := .input, type := .object, nested := some fs' } := by
  rw [read_rebuilt h hnames] at hread
  split at hread
  · cases hread
    cases hsource
  · rename_i hplain
    rw [Outcome.result_bind, bind_eq_ok] at hread
    obtain ⟨fs', hfs', hread⟩ := hread
    cases hread
    exact ⟨by simpa using hplain, fs', allRead_of_readEntries hfs' (h.unreserved hnames), rfl⟩

/-- The description of an element counts exactly when the element is written under a marker. -/
theorem Rebuilt.sharesDescription_iff {f : Field} {raw : Value} (h : f.Rebuilt raw)
    (hf : f.Formed) : sharesDescription raw = true ↔ f.form = .marked := by
  cases hform : f.form with
  | marked =>
      obtain rfl := h.eq_of_marked hf hform
      rw [sharesDescription, markedEntries, marker?, ofMarker?_name]
      simp
  | list i =>
      obtain ⟨rawItem, -, rfl⟩ := h.exists_of_list hf hform
      simp [sharesDescription]
  | object fs =>
      obtain ⟨raws, hall, rfl⟩ := h.exists_of_object hf hform
      obtain ⟨-, -, hn⟩ := form_eq_object.mp hform
      simp [sharesDescription, marker?_eq_none (hall.unreserved (hf.unreserved hn))]

/-- A field that comes back as it was written differs in its description and its members at most. -/
theorem Regained.kin {name : String} {f g : Field} (h : Regained name f) (hf : f.Formed)
    {raw : Value} (hraw : f.Rebuilt raw) (hread : (Field.read name raw).result = .ok g)
    (hsame : g.serialize = f.serialize) : f.Kin g := by
  induction h generalizing raw g with
  | marked hspoken =>
      obtain rfl := hraw.eq_of_marked hf hspoken.form_eq
      have hsettled := hspoken.textSettled hf hread hsame
      obtain ⟨description, hback, hliteral⟩ :=
        hspoken.exists_read (hspoken.options_eq ▸ hf.freeOptions) hsettled
      rw [hread] at hback
      obtain rfl := Except.ok.inj hback
      exact kin_of_literal hliteral rfl rfl
  | @list i _ hlink shared hshared name ih =>
      have hform := form_ofElement hlink name shared
      have hi : i.Formed := hf.item rfl
      obtain ⟨rawItem, hitem, rfl⟩ := hraw.exists_of_list hf hform
      simp only [Field.read, Outcome.result_map, map_eq_ok] at hread
      obtain ⟨i', hi', rfl⟩ := hread
      have hkin := ih hi hitem hi' (Option.some.inj (item_eq_of_serialize hsame))
      refine hkin.ofElement (fun hpayload => ?_) name
      rw [Bool.eq_iff_iff, hshared hpayload]
      exact hitem.sharesDescription_iff hi
  | @object fs hnames _ name ih =>
      obtain ⟨raws, hall, rfl⟩ := hraw.exists_of_object hf rfl
      obtain ⟨-, fs', -, rfl⟩ := exists_allRead_of_read hall hnames hread
        (source_eq_of_serialize hsame)
      exact kin_of_nested (Option.some.inj (nested_eq_of_serialize hsame)) name

/-- **What comes back as it is.**  A field that was read from the value that another is rebuilt from
is written as before exactly when it is settled. -/
theorem Regained.stable_iff {name : String} {f : Field} (h : Regained name f) (hf : f.Formed) :
    f.Stable name ↔ f.Settled := by
  induction h with
  | @marked name options f hspoken =>
      rw [settled_iff_of_marked hspoken.form_eq]
      have hraw := rebuilt_marked hf hspoken.form_eq
      constructor
      · rintro ⟨raw, g, hraw', hread, hsame⟩
        obtain rfl := hraw'.unique hraw
        exact hspoken.textSettled hf hread hsame
      · intro hsettled
        obtain ⟨description, hback, hliteral⟩ :=
          hspoken.exists_read (hspoken.options_eq ▸ hf.freeOptions) hsettled
        exact ⟨_, _, hraw, hback, (kin_of_literal hliteral rfl rfl).serialize⟩
  | @list i hi hlink shared hshared name ih =>
      have hform := form_ofElement hlink name shared
      have hformed : i.Formed := hf.item rfl
      rw [settled_iff_of_list hform, ← ih hformed]
      constructor
      · rintro ⟨raw, g, hraw, hread, hsame⟩
        obtain ⟨rawItem, hitem, rfl⟩ := hraw.exists_of_list hf hform
        simp only [Field.read, Outcome.result_map, map_eq_ok] at hread
        obtain ⟨i', hi', rfl⟩ := hread
        exact ⟨rawItem, i', hitem, hi', Option.some.inj (item_eq_of_serialize hsame)⟩
      · rintro ⟨rawItem, i', hitem, hi', hsame⟩
        have hkin := hi.kin hformed hitem hi' hsame
        refine ⟨_, .ofElement name (sharesDescription rawItem) i', rebuilt_list hf hform hitem, ?_,
          (hkin.ofElement (fun hpayload => ?_) name).serialize⟩
        · simp only [Field.read, Outcome.result_map, hi']
          rfl
        · rw [Bool.eq_iff_iff, hshared hpayload]
          exact hitem.sharesDescription_iff hformed
  | @object fs hnames _ name ih =>
      have hform : ({
          name, description := name, source := .input, type := .object
          nested := some fs } : Field).form = .object fs := rfl
      have hmembers : (∀ e ∈ fs, e.2.Stable e.1) ↔ ∀ e ∈ fs, e.2.Settled :=
        forall₂_congr fun e he => ih e he (hf.members rfl e he)
      rw [settled_iff_of_object hform, ← hmembers]
      constructor
      · rintro ⟨raw, g, hraw, hread, hsame⟩
        obtain ⟨raws, hall, rfl⟩ := hraw.exists_of_object hf hform
        obtain ⟨hplain, fs', hfs', rfl⟩ := exists_allRead_of_read hall hnames hread
          (source_eq_of_serialize hsame)
        refine ⟨?_, (hall.serializeAll_eq_iff hfs').mp ?_⟩
        · rw [← hraw.exposes, hplain]
          exact Bool.false_ne_true
        · exact Option.some.inj (nested_eq_of_serialize hsame)
      · rintro ⟨hexposes, hstable⟩
        obtain ⟨raw, hraw⟩ := hf.exists_rebuilt
        obtain ⟨raws, hall, rfl⟩ := hraw.exists_of_object hf hform
        obtain ⟨fs', hfs'⟩ := hall.read fun e he => (hstable e he).rereads
        have hsame := (hall.serializeAll_eq_iff
          (allRead_of_readEntries hfs' (hall.unreserved hnames))).mpr hstable
        refine ⟨_, { name, description := name, source := .input, type := .object
                     nested := some fs' }, hraw, ?_, ?_⟩
        · rw [read_rebuilt hall hnames, if_neg (mt hraw.exposes.mp hexposes),
            Outcome.result_bind, hfs']
          rfl
        · exact (kin_of_nested hsame name).serialize

end Field

end Entity
