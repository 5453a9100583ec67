import Entity.Proofs.Cascade.Overlong
import Entity.Proofs.Field.Formed

/-!
# Values that are not read

Reading keeps what it cannot make sense of as a description with an issue, but some values make it
fail.  Main statement: reading fails exactly if somewhere in the value there is a number in a
cascade text that is too long, a model that is no text, or the name of an aggregate function that is
written with a letter outside ASCII.
-/

namespace Entity

open Entity.Text

/-! ## Names of aggregate functions -/

theorem foldLetter_of_ascii {c : Char} (h : c.toNat < 128) : foldLetter c = c.toLower := by
  unfold foldLetter
  rw [if_neg (by omega), if_neg (by omega)]

theorem toLower_of_not_ascii {c : Char} (h : 128 ≤ c.toNat) : c.toLower = c := by
  unfold Char.toLower
  split
  · rename_i hupper
    have hle : c.val.toNat ≤ 90 := hupper.2
    have hnat : c.val.toNat = c.toNat := rfl
    omega
  · rfl

/-- The letters outside ASCII that stand for letters of names: the long s, the undotted i and the
dotted capital i. -/
theorem toNat_of_foldLetter {c : Char} (hc : 128 ≤ c.toNat) (hfold : (foldLetter c).toNat < 128) :
    c.toNat = 0x17f ∨ c.toNat = 0x131 ∨ c.toNat = 0x130 := by
  unfold foldLetter at hfold
  split at hfold
  · rename_i h
    exact Or.inl h
  · split at hfold
    · rename_i h
      exact Or.inr h
    · rw [toLower_of_not_ascii hc] at hfold
      omega

theorem lowerAfter_of_ascii {cs : List Char} (h : ∀ c ∈ cs, c.toNat < 128) (before : List Char) :
    lowerAfter before cs = cs.map Char.toLower := by
  induction cs generalizing before with
  | nil => rfl
  | cons c cs ih =>
      have hc : c.toNat < 128 := h c (by simp)
      have hsigma : (c.toNat == 0x3a3) = false := by
        rw [beq_eq_false_iff_ne]
        omega
      have hval : c.val < 128 := by
        rw [UInt32.lt_iff_toNat_lt]
        exact hc
      rw [lowerAfter, hsigma, lowerChar, if_pos hval, ih fun d hd => h d (by simp [hd])]
      rfl

/-- The lower-case form of a letter stands in the lower-case text, unless it is a sigma. -/
theorem mem_lowerAfter {c d : Char} {cs : List Char} (hc : c ∈ cs) (hsigma : c.toNat ≠ 0x3a3)
    (hd : d ∈ lowerChar c) (before : List Char) : d ∈ lowerAfter before cs := by
  induction cs generalizing before with
  | nil => cases hc
  | cons b cs ih =>
      rw [lowerAfter, List.mem_append]
      rcases List.mem_cons.mp hc with rfl | hc
      · left
        rw [if_neg (by simpa using hsigma)]
        exact hd
      · exact Or.inr (ih hc _)

/-- The letters outside ASCII keep a part outside ASCII in lower case. -/
theorem exists_mem_lowerChar {c : Char} (hc : 128 ≤ c.toNat)
    (hfold : (foldLetter c).toNat < 128) : ∃ d ∈ lowerChar c, 128 ≤ d.toNat := by
  have hofNat := Char.ofNat_toNat c
  rcases toNat_of_foldLetter hc hfold with h | h | h <;> rw [h] at hofNat <;> subst hofNat
  · exact ⟨Char.ofNat 0x17f, by decide, by decide⟩
  · exact ⟨Char.ofNat 0x131, by decide, by decide⟩
  · exact ⟨Char.ofNat 0x307, by decide, by decide⟩

theorem AggregateFunction.ascii_name (f : AggregateFunction) :
    ∀ c ∈ f.name.toList, c.toNat < 128 := by
  have hall : (f.name.toList.all fun c => decide (c.toNat < 128)) = true := by
    cases f <;> rfl
  simpa using hall

theorem AggregateFunction.ofName?_name (f : AggregateFunction) : ofName? f.name = some f := by
  cases f <;> rfl

theorem AggregateFunction.name_of_ofName? {name : String} {f : AggregateFunction}
    (h : ofName? name = some f) : f.name = name := by
  simpa using List.find?_some h

/-- A spelling of a name in letters that stand for others is none of a function exactly if one of
its letters is outside ASCII. -/
theorem ofName?_toLower_eq_none_iff {f : AggregateFunction} {written : String}
    (hfold : written.toList.map foldLetter = f.name.toList) :
    AggregateFunction.ofName? (toLower written) = none ↔
      ∃ c ∈ written.toList, 128 ≤ c.toNat := by
  constructor
  · intro hnone
    by_contra hascii
    push Not at hascii
    have hlower : toLower written = f.name := by
      rw [toLower, lowerAfter_of_ascii hascii, ← String.toList_inj, String.toList_ofList, ← hfold]
      exact List.map_congr_left fun c hc => (foldLetter_of_ascii (hascii c hc)).symm
    rw [hlower, AggregateFunction.ofName?_name] at hnone
    cases hnone
  · rintro ⟨c, hc, hbig⟩
    cases hname : AggregateFunction.ofName? (toLower written) with
    | none => rfl
    | some g =>
        exfalso
        have hletter : foldLetter c ∈ f.name.toList := by
          rw [← hfold]
          exact List.mem_map_of_mem hc
        have hsmall := f.ascii_name _ hletter
        -- lower case keeps something outside ASCII, and the name found has nothing outside it
        obtain ⟨d, hd, hdbig⟩ := exists_mem_lowerChar hbig hsmall
        have hsigma : c.toNat ≠ 0x3a3 := by
          have h := toNat_of_foldLetter hbig hsmall
          omega
        have hmem : d ∈ (toLower written).toList := by
          rw [toLower, String.toList_ofList]
          exact mem_lowerAfter hc hsigma hd []
        rw [← AggregateFunction.name_of_ofName? hname] at hmem
        have := g.ascii_name d hmem
        omega

/-- The name in an aggregate expression is a spelling of the name of a function. -/
theorem map_foldLetter_of_aggregateParts? {text written path : String}
    (h : aggregateParts? text = some (written, path)) :
    ∃ f : AggregateFunction, written.toList.map foldLetter = f.name.toList := by
  obtain ⟨f, -, hf⟩ := List.exists_of_findSome?_eq_some h
  simp only [Option.bind_eq_bind, Option.bind_eq_some_iff] at hf
  obtain ⟨⟨name, rest⟩, hname, path, -, hsome⟩ := hf
  cases hsome
  exact ⟨f, by rw [String.toList_ofList]; exact (foldedStart?_eq_some hname).2⟩

/-- The name of the function in an aggregate expression is written with a letter outside ASCII. -/
def Misspelt (text : String) : Prop :=
  ∃ written path, aggregateParts? text = some (written, path) ∧
    ∃ c ∈ written.toList, 128 ≤ c.toNat

theorem exists_ofAggregateText_error_iff (name text : String) :
    (∃ e, (Field.ofAggregateText name text).result = .error e) ↔ Misspelt text := by
  unfold Field.ofAggregateText Misspelt
  cases hparts : aggregateParts? text with
  | none => simp
  | some parts =>
      obtain ⟨written, path⟩ := parts
      obtain ⟨f, hfold⟩ := map_foldLetter_of_aggregateParts? hparts
      have hiff := ofName?_toLower_eq_none_iff hfold
      dsimp only
      cases hname : AggregateFunction.ofName? (toLower written) with
      | none =>
          refine ⟨fun _ => ⟨written, path, rfl, hiff.mp hname⟩, fun _ => ⟨_, rfl⟩⟩
      | some g =>
          constructor
          · rintro ⟨e, h⟩
            cases h
          · rintro ⟨_, _, hsome, hletter⟩
            cases hsome
            rw [hiff.mpr hletter] at hname
            cases hname

/-! ## Texts and links -/

theorem exists_ofText_error_iff (name text : String) :
    (∃ e, (Field.ofText name text).result = .error e) ↔ Cascade.Overlong text := by
  rw [← Cascade.exists_read?_error_iff]
  constructor
  · rintro ⟨e, h⟩
    cases hread : Cascade.read? text with
    | error e' => exact ⟨e', rfl⟩
    | ok c =>
        obtain ⟨g, hg, -⟩ := exists_result_ofText hread name
        rw [hg] at h
        cases h
  · rintro ⟨e, h⟩
    exact ⟨e, result_ofText_error h name⟩

theorem exists_ofInput_error_iff (name : String) (body : Value) :
    (∃ e, (Field.ofInput name body).result = .error e) ↔
      ∃ text, body = .text text ∧ Cascade.Overlong text := by
  cases body with
  | text text =>
      rw [result_ofInput, exists_map_eq_error, Cascade.exists_read?_error_iff]
      simp
  | _ => simp [Field.ofInput]

/-- The text of a link has a number that is too long, in itself or behind the arrow that is put
before a text without an operator. -/
def OverlongLink (body : Value) : Prop :=
  Cascade.Overlong (trimmed body.shown) ∨
    Cascade.read? (trimmed body.shown) = .ok none ∧
      Cascade.Overlong ("->" ++ trimmed body.shown)

/-- Once its text is read, a link is read, perhaps with an issue. -/
theorem exists_linkEnd_error_iff (x : Outcome Field) (name text : String)
    (selector : Option Computation) : (∃ e, ((x >>= fun g =>
      if g.cascade.isNone then
        Field.degraded { name, description := text, source := .link }
          ("unreadable link " ++ Text.quoted text)
      else pure (g.withSelector selector)) : Outcome Field).result = .error e) ↔
      ∃ e, x.result = .error e := by
  rw [Outcome.result_bind, exists_bind_eq_error]
  constructor
  · rintro (h | ⟨g, -, e, he⟩)
    · exact h
    · split at he
      · rw [Field.result_degraded] at he
        cases he
      · cases he
  · exact Or.inl

theorem exists_ofLink_error_iff (name : String) (body selector : Value) :
    (∃ e, (Field.ofLink name body selector).result = .error e) ↔
      OverlongLink ((body.items?.bind List.head?).getD body) := by
  have hlink : (∃ e, (Field.ofLink name body selector).result = .error e) ↔
      (∃ e, (linkText ((body.items?.bind List.head?).getD body)).result = .error e) ∨
        ∃ text, (linkText ((body.items?.bind List.head?).getD body)).result = .ok text ∧
          Cascade.Overlong text := by
    unfold Field.ofLink
    dsimp only
    rw [Outcome.result_bind, exists_bind_eq_error]
    -- a list of instances fails as its element does
    have hread : ∀ text : String, (∃ e, ((.ofElement name true) <$>
        Field.ofText "item" text : Outcome Field).result = .error e) ↔ Cascade.Overlong text := by
      intro text
      rw [Outcome.result_map, exists_map_eq_error, exists_ofText_error_iff]
    by_cases hrepeated : body.items?.isSome = true
    · simp only [hrepeated, if_true, exists_linkEnd_error_iff, hread]
    · simp only [hrepeated, Bool.false_eq_true, if_false, exists_linkEnd_error_iff,
        exists_ofText_error_iff]
  rw [hlink, result_linkText, exists_map_eq_error, Cascade.exists_read?_error_iff, OverlongLink]
  generalize trimmed ((body.items?.bind List.head?).getD body).shown = text
  constructor
  · rintro (h | ⟨linked, hlinked, h⟩)
    · exact Or.inl h
    · obtain ⟨c, hc, rfl⟩ := map_eq_ok.mp hlinked
      cases c with
      | none => exact Or.inr ⟨hc, h⟩
      | some c => exact Or.inl h
  · rintro (h | ⟨hc, h⟩)
    · exact Or.inl h
    · refine Or.inr ⟨"->" ++ text, ?_, h⟩
      rw [hc]
      rfl

/-! ## Models -/

/-- The value can stand for the name of a model: a text, or bytes that encode one, or nothing. -/
def Value.Textual : Value → Prop
  | .null => True
  | .text _ => True
  | .bytes bs => (String.fromUTF8? ⟨bs.toArray⟩).isSome
  | _ => False

theorem exists_requireText?_error_iff (v : Value) :
    (∃ e, requireText? v = .error e) ↔ ¬ v.Textual := by
  cases v with
  | bytes bs =>
      simp only [requireText?, Value.Textual]
      cases String.fromUTF8? ⟨bs.toArray⟩ <;> simp
  | _ => simp [requireText?, Value.Textual]

theorem exists_ofPrompt_error_iff (name prompt : String) (entries : Entries String Value) :
    (∃ e, Field.ofPrompt name prompt entries = .error e) ↔
      ¬ (Value.lookup entries "model").Textual := by
  unfold Field.ofPrompt
  change (∃ e, Except.bind _ _ = _) ↔ _
  rw [exists_bind_eq_error, exists_requireText?_error_iff]
  constructor
  · rintro (h | ⟨model, -, e, hpure⟩)
    · exact h
    · cases hpure
  · exact Or.inl

/-- A mapping, or a list of one element that is, however deep. -/
inductive Value.Schematic : Value → Prop
  | map (entries : Entries String Value) : Schematic (.map entries)
  | list {element : Value} (h : Schematic element) : Schematic (.list [element])
  | tuple {element : Value} (h : Schematic element) : Schematic (.tuple [element])

theorem exists_ofGenerate_error_iff (name : String) (schema model body : Value) :
    (∃ e, Field.ofGenerate name schema model body = .error e) ↔
      body.Schematic ∧ ¬ model.Textual := by
  fun_induction Field.ofGenerate name schema model body with
  | case1 name entries =>
      change (∃ e, Except.bind _ _ = _) ↔ _
      rw [exists_bind_eq_error, exists_requireText?_error_iff]
      constructor
      · rintro (h | ⟨model, -, e, hpure⟩)
        · exact ⟨.map entries, h⟩
        · cases hpure
      · rintro ⟨-, h⟩
        exact Or.inl h
  | case2 name element ih =>
      rw [exists_map_eq_error, ih]
      constructor
      · rintro ⟨h, hmodel⟩
        exact ⟨.list h, hmodel⟩
      · rintro ⟨⟨⟩, hmodel⟩
        exact ⟨by assumption, hmodel⟩
  | case3 name element ih =>
      rw [exists_map_eq_error, ih]
      constructor
      · rintro ⟨h, hmodel⟩
        exact ⟨.tuple h, hmodel⟩
      · rintro ⟨⟨⟩, hmodel⟩
        exact ⟨by assumption, hmodel⟩
  | case4 name body hmap hlist htuple =>
      constructor
      · rintro ⟨e, h⟩
        cases h
      · rintro ⟨h, -⟩
        cases h with
        | map entries => exact (hmap entries rfl).elim
        | @list element => exact (hlist element rfl).elim
        | @tuple element => exact (htuple element rfl).elim

/-! ## Markers -/

/-- The value of a marker cannot be read. -/
def Source.Refuses (source : Source) (body : Value) (entries : Entries String Value) : Prop :=
  match source with
  | .input => ∃ text, body = .text text ∧ Cascade.Overlong text
  | .generate => body.Schematic ∧ ¬ (Value.lookup entries "model").Textual
  | .aggregate => Misspelt body.shown
  | .link => OverlongLink ((body.items?.bind List.head?).getD body)
  | .compute | .sync | .fuzzy => False

theorem exists_ofMarker_error_iff (name : String) (source : Source) (body : Value)
    (entries : Entries String Value) :
    (∃ e, (Field.ofMarker name source body entries).result = .error e) ↔
      source.Refuses body entries := by
  cases source with
  | input => exact exists_ofInput_error_iff name body
  | generate => exact exists_ofGenerate_error_iff name _ _ body
  | aggregate => exact exists_ofAggregateText_error_iff name body.shown
  | link => exact exists_ofLink_error_iff name body _
  | sync => simp [Field.ofMarker, Source.Refuses]
  | fuzzy => simp [Field.ofMarker, Source.Refuses]
  | compute =>
      simp only [Field.ofMarker, Field.ofCompute, Source.Refuses]
      split <;> simp

/-- The keys beside a marker never make its reading fail. -/
theorem exists_ofMarked_error_iff (name key : String) (source : Source) (body : Value)
    (entries : Entries String Value) :
    (∃ e, (Field.ofMarked name key source body entries).result = .error e) ↔
      source.Refuses body entries := by
  rw [Field.ofMarked, Outcome.result_bind, exists_bind_eq_error, exists_ofMarker_error_iff]
  constructor
  · rintro (h | ⟨g, -, e, he⟩)
    · exact h
    · rw [Field.result_degradedBy] at he
      cases he
  · exact Or.inl

/-! ## All values -/

/-- Somewhere in the value there is something that cannot be read. -/
inductive Value.Refused : Value → Prop
  /-- A text with a number that is too long. -/
  | text {text : String} : Cascade.Overlong text → Refused (.text text)
  | list {element : Value} : Refused element → Refused (.list [element])
  | tuple {element : Value} : Refused element → Refused (.tuple [element])
  /-- The value of the marker of a mapping. -/
  | marked {entries : Entries String Value} {key : String} {source : Source} {body : Value} :
      marker? entries = some (key, source, body) → source.Refuses body entries →
      Refused (.map entries)
  /-- The model beside a prompt. -/
  | prompt {entries : Entries String Value} {prompt : String} :
      marker? entries = none → promptOf? entries = some prompt →
      ¬ (Value.lookup entries "model").Textual → Refused (.map entries)
  /-- A member of an object that is given by the user. -/
  | member {entries : Entries String Value} {e : String × Value} :
      marker? entries = none → promptOf? entries = none →
      Template.valueHasPlaceholder (.map entries) = false → e ∈ entries →
      isReserved e.1 = false → Refused e.2 → Refused (.map entries)

/-! ### What is refused, by the form of the value -/

section Forms

variable {items : List Value} {entries : Entries String Value}

theorem refused_iff_of_items {v : Value} (hv : v.items? = some items) :
    v.Refused ↔ ∃ element, items = [element] ∧ element.Refused := by
  constructor
  · intro h
    cases h with
    | list h | tuple h =>
        cases hv
        exact ⟨_, rfl, h⟩
    | _ => cases hv
  · rintro ⟨element, rfl, h⟩
    cases v with
    | list =>
        cases hv
        exact .list h
    | tuple =>
        cases hv
        exact .tuple h
    | _ => cases hv

theorem refused_iff_of_marker {key : String} {source : Source} {body : Value}
    (hmarker : marker? entries = some (key, source, body)) :
    (Value.map entries).Refused ↔ source.Refuses body entries := by
  constructor
  · intro h
    cases h with
    | marked hfound hrefuses =>
        rw [hmarker] at hfound
        cases hfound
        exact hrefuses
    | prompt hnone | member hnone =>
        rw [hmarker] at hnone
        cases hnone
  · exact .marked hmarker

theorem refused_iff_of_prompt (hmarker : marker? entries = none) {prompt : String}
    (hprompt : promptOf? entries = some prompt) :
    (Value.map entries).Refused ↔ ¬ (Value.lookup entries "model").Textual := by
  constructor
  · intro h
    cases h with
    | marked hfound =>
        rw [hmarker] at hfound
        cases hfound
    | prompt _ _ hmodel => exact hmodel
    | member _ hnone =>
        rw [hprompt] at hnone
        cases hnone
  · exact .prompt hmarker hprompt

/-- A mapping without a marker and a prompt is refused for a member, unless it is read as a prompt
itself. -/
theorem refused_iff_of_unmarked (hmarker : marker? entries = none)
    (hprompt : promptOf? entries = none) : (Value.map entries).Refused ↔
      Template.valueHasPlaceholder (.map entries) = false ∧
        ∃ e ∈ entries, isReserved e.1 = false ∧ e.2.Refused := by
  constructor
  · intro h
    cases h with
    | marked hfound =>
        rw [hmarker] at hfound
        cases hfound
    | prompt _ hfound =>
        rw [hprompt] at hfound
        cases hfound
    | member _ _ hplaceholder he hreserved hrefused =>
        exact ⟨hplaceholder, _, he, hreserved, hrefused⟩
  · rintro ⟨hplaceholder, e, he, hreserved, hrefused⟩
    exact .member hmarker hprompt hplaceholder he hreserved hrefused

end Forms

/-! ### What fails, by the form of the value -/

/-- Of the values without members only a text can fail. -/
theorem exists_read_leaf_error_iff {v : Value} (hmap : v.map? = none) (hitems : v.items? = none)
    (name : String) : (∃ e, (Field.read name v).result = .error e) ↔ v.Refused := by
  cases v with
  | list | tuple | map => simp [Value.map?, Value.items?] at hmap hitems
  | text text =>
      rw [Field.read, exists_ofText_error_iff]
      constructor
      · exact .text
      · rintro ⟨h⟩
        exact h
  | ref path =>
      constructor
      · rintro ⟨e, h⟩
        simp only [Field.read, Field.ofRef] at h
        split at h
        · rw [Field.result_degraded] at h
          cases h
        · split at h <;> cases h
      · rintro ⟨⟩
  | _ =>
      constructor
      · rintro ⟨e, h⟩
        simp only [Field.read, Field.ofUnsupported, Field.result_degraded] at h
        cases h
      · rintro ⟨⟩

theorem exists_readEntries_error_iff (entries : Entries String Value) :
    (∃ err, (Field.readEntries entries).result = .error err) ↔
      ∃ e ∈ entries, isReserved e.1 = false ∧
        ∃ err, (Field.read e.1 e.2).result = .error err := by
  induction entries with
  | nil => simp [Field.readEntries]
  | cons entry entries ih =>
      obtain ⟨name, v⟩ := entry
      rw [Field.readEntries]
      simp only [List.mem_cons, exists_eq_or_imp]
      split
      · rename_i hreserved
        rw [ih]
        simp [hreserved]
      · rename_i hreserved
        have hname : isReserved name = false := by simpa using hreserved
        rw [Outcome.result_bind, exists_bind_eq_error]
        constructor
        · rintro (h | ⟨f, -, h⟩)
          · exact Or.inl ⟨hname, h⟩
          · rw [Outcome.result_bind, exists_bind_eq_error] at h
            rcases h with h | ⟨fs, -, err, hpure⟩
            · exact Or.inr (ih.mp h)
            · cases hpure
        · rintro (⟨-, h⟩ | h)
          · exact Or.inl h
          · cases hread : (Field.read name v).result with
            | error err => exact Or.inl ⟨err, rfl⟩
            | ok f =>
                refine Or.inr ⟨f, rfl, ?_⟩
                rw [Outcome.result_bind, exists_bind_eq_error]
                exact Or.inl (ih.mpr h)

/-- A list of one element fails as its element does, and any other list never fails. -/
theorem exists_read_items_error_iff {v : Value} {items : List Value} (hv : v.items? = some items)
    (ih : ∀ v ∈ items, ∀ name, (∃ e, (Field.read name v).result = .error e) ↔ v.Refused)
    (name : String) : (∃ e, (Field.read name v).result = .error e) ↔ v.Refused := by
  rw [refused_iff_of_items hv]
  rcases read_items_cases hv name with ⟨element, rfl, hread⟩ | ⟨hitems, hread⟩
  · rw [hread, Outcome.result_map, exists_map_eq_error, ih element (by simp) "item"]
    simp
  · rw [hread, Field.ofWrongLength, Field.result_degraded]
    constructor
    · rintro ⟨e, h⟩
      cases h
    · rintro ⟨element, h, -⟩
      exact absurd h (hitems element)

/-- A mapping fails exactly if it is refused, once this is known of its members. -/
theorem exists_read_map_error_iff {entries : Entries String Value}
    (ih : ∀ e ∈ entries, ∀ name,
      (∃ err, (Field.read name e.2).result = .error err) ↔ e.2.Refused) (name : String) :
    (∃ err, (Field.read name (.map entries)).result = .error err) ↔
      (Value.map entries).Refused := by
  rw [Field.read]
  cases hmarker : marker? entries with
  | some found =>
      obtain ⟨key, source, body⟩ := found
      dsimp only
      rw [exists_ofMarked_error_iff, refused_iff_of_marker hmarker]
  | none =>
      cases hprompt : promptOf? entries with
      | some prompt =>
          dsimp only
          rw [Outcome.result_lift, exists_ofPrompt_error_iff, refused_iff_of_prompt hmarker hprompt]
      | none =>
          dsimp only
          rw [refused_iff_of_unmarked hmarker hprompt]
          split
          -- the mapping is read as one prompt, which cannot fail
          · rename_i hplaceholder
            rw [hplaceholder]
            simp
          · rename_i hplaceholder
            have hplaceholder : Template.valueHasPlaceholder (.map entries) = false := by
              simpa using hplaceholder
            rw [Outcome.result_bind, exists_bind_eq_error, exists_readEntries_error_iff]
            constructor
            · rintro (⟨e, he, hreserved, h⟩ | ⟨fs, -, err, hpure⟩)
              · exact ⟨hplaceholder, e, he, hreserved, (ih e he e.1).mp h⟩
              · cases hpure
            · rintro ⟨-, e, he, hreserved, h⟩
              exact Or.inl ⟨e, he, hreserved, (ih e he e.1).mpr h⟩

theorem exists_read_error_iff (v : Value) (name : String) :
    (∃ e, (Field.read name v).result = .error e) ↔ v.Refused := by
  induction v using Value.induct_members generalizing name with
  | leaf v hmap hitems => exact exists_read_leaf_error_iff hmap hitems name
  | list items ih => exact exists_read_items_error_iff rfl ih name
  | tuple items ih => exact exists_read_items_error_iff rfl ih name
  | map entries ih => exact exists_read_map_error_iff ih name

end Entity
