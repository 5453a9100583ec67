import Entity.Proofs.Serialized.Regained

/-!
# Fields that are written alike

Main statements: fields with one serialized form have one text, the same alternatives, placeholders
and members, and the same declared cascade; what is not written down of a field may differ.
-/

namespace Entity

open Entries Entity.Text

/-! ## Values of one kind -/

theorem Value.texts_inj {ss ts : List String} : Value.texts ss = Value.texts ts ↔ ss = ts := by
  have htext : Function.Injective Value.text := by
    rintro s t ⟨⟩
    rfl
  constructor
  · intro h
    exact htext.list_map (Value.list.inj h)
  · rintro rfl
    rfl

theorem CascadeOperator.token_inj {a b : CascadeOperator} : a.token = b.token ↔ a = b := by
  cases a <;> cases b <;> decide

theorem Comparator.token_inj {a b : Comparator} : a.token = b.token ↔ a = b := by
  cases a <;> cases b <;> decide

theorem FilterValue.toValue_injective : Function.Injective FilterValue.toValue := by
  intro v w h
  cases v <;> cases w <;> cases h <;> rfl

theorem Filter.toValue_injective : Function.Injective Filter.toValue := by
  rintro ⟨field, comparator, value⟩ ⟨field', comparator', value'⟩ h
  simp only [Filter.toValue, Value.map.injEq, List.cons.injEq, Prod.mk.injEq, Value.text.injEq,
    true_and, and_true] at h
  obtain ⟨rfl, hcomparator, hvalue⟩ := h
  rw [Comparator.token_inj.mp hcomparator, FilterValue.toValue_injective hvalue]

/-- An entry that stands only for what is not empty tells what it stands for. -/
theorem eq_of_unless_nil {α β : Type} (write : List α → β) (hwrite : Function.Injective write)
    {xs ys : List α} (h : (if xs = [] then none else some (write xs)) =
      if ys = [] then none else some (write ys)) : xs = ys := by
  by_cases hx : xs = [] <;> by_cases hy : ys = []
  · rw [hx, hy]
  · simp [hx, hy] at h
  · simp [hx, hy] at h
  · rw [if_neg hx, if_neg hy] at h
    exact hwrite (Option.some.inj h)

theorem text_map_injective : Function.Injective (Option.map Value.text) := by
  refine Option.map_injective ?_
  rintro s t ⟨⟩
  rfl

/-! ## Cascades -/

namespace Cascade

/-- Cascades that differ in their prompts only are written differently. -/
theorem prompt_of_toGrammar {c : Cascade} {p q : Option String}
    (hroute : nonEmpty? c.route = c.route) (hp : nonEmpty? p = p) (hq : nonEmpty? q = q)
    (h : ({ c with prompt := p } : Cascade).toGrammar =
      ({ c with prompt := q } : Cascade).toGrammar) : p = q := by
  have htext := congrArg String.toList h
  rw [toList_toGrammar (c := { c with prompt := p }) hp hroute,
    toList_toGrammar (c := { c with prompt := q }) hq hroute] at htext
  have hprompted : ({ c with prompt := p } : Cascade).promptedText =
      ({ c with prompt := q } : Cascade).promptedText := by
    cases hr : c.route with
    | none => simpa only [hr] using htext
    | some r => simpa [hr] using htext
  have hlink : ({ c with prompt := p } : Cascade).linkText =
      ({ c with prompt := q } : Cascade).linkText := rfl
  simp only [promptedText, hlink] at hprompted
  have hlength := congrArg List.length hprompted
  cases p with
  | none =>
      cases q with
      | none => rfl
      | some q =>
          simp only [List.length_append, List.length_cons] at hlength
          omega
  | some p =>
      cases q with
      | none =>
          simp only [List.length_append, List.length_cons] at hlength
          omega
      | some q =>
          have hsame := List.append_cancel_right hprompted
          rw [String.toList_inj.mp hsame]

/-- A cascade is known from its entries and its text, but for its list and its function. -/
theorem declared_eq_of_entries {c c' : Cascade} (h : c.declared.Tidy) (h' : c'.declared.Tidy)
    (hentries : ∀ key ∉ Field.ownKeys, get? key c'.toEntries = get? key c.toEntries)
    (htext : c'.toGrammar = c.toGrammar) : c'.declared = c.declared := by
  have hoperator : c'.operator = c.operator := by
    simpa [get?_operator, CascadeOperator.token_inj] using hentries "operator" (by decide)
  have htarget : c'.target = c.target := by
    simpa [get?_target] using hentries "target" (by decide)
  have hpredicate : c'.predicate = c.predicate := by
    have hsame := hentries "predicate" (by decide)
    rw [get?_predicate, get?_predicate] at hsame
    exact h'.predicate.symm.trans ((text_map_injective hsame).trans h.predicate)
  have hroute : c'.route = c.route := by
    have hsame := hentries "route" (by decide)
    rw [get?_route, get?_route] at hsame
    exact h'.route.symm.trans ((text_map_injective hsame).trans h.route)
  have hfilters : c'.filters = c.filters := by
    have hsame := hentries "filters" (by decide)
    rw [get?_filters, get?_filters] at hsame
    refine eq_of_unless_nil (fun fs => Value.list (fs.map Filter.toValue)) ?_ hsame
    intro fs gs hlist
    exact Filter.toValue_injective.list_map (Value.list.inj hlist)
  have hrejected : c'.rejected = c.rejected := by
    have hsame := hentries "rejected_filters" (by decide)
    rw [get?_rejected, get?_rejected] at hsame
    exact eq_of_unless_nil Value.texts (fun _ _ => Value.texts_inj.mp) hsame
  obtain ⟨_, _, _, _, _, _, prompt, isArray, selector⟩ := c
  obtain ⟨operator, target, predicate, route, filters, rejected, prompt', isArray', selector'⟩ := c'
  subst hoperator htarget hpredicate hroute hfilters hrejected
  -- the text does not show the list and the function
  have hprompt : prompt' = prompt :=
    prompt_of_toGrammar (c := Cascade.declared ⟨operator, target, predicate, route, filters,
      rejected, prompt, isArray, selector⟩) h.route h'.prompt h.prompt htext
  rw [hprompt]
  rfl

end Cascade

/-! ## Fields -/

namespace Field

section Serialize

variable {f g : Field} (h : g.serialize = f.serialize)

include h

theorem entries_eq_of_serialize : g.entries = f.entries := by
  rw [serialize_eq, serialize_eq] at h
  exact Value.map.inj h

theorem source_eq_of_serialize : g.source = f.source := by
  have hsame := congrArg (get? "source") (entries_eq_of_serialize h)
  rw [get?_source, get?_source] at hsame
  exact Source.name_inj.mp (Value.text.inj (Option.some.inj hsame))

theorem literal_eq_of_serialize : g.literal = f.literal := by
  have hsame := congrArg (get? "value") (entries_eq_of_serialize h)
  rw [get?_value, get?_value] at hsame
  exact Value.text.inj (Option.some.inj hsame)

theorem alternatives_eq_of_serialize : g.alternatives = f.alternatives := by
  have hsame := congrArg (get? "enum") (entries_eq_of_serialize h)
  rw [get?_enum, get?_enum] at hsame
  exact eq_of_unless_nil Value.texts (fun _ _ => Value.texts_inj.mp) hsame

theorem placeholders_eq_of_serialize :
    g.generation.map Generation.placeholders = f.generation.map Generation.placeholders := by
  have hsame := congrArg (get? "variables") (entries_eq_of_serialize h)
  rw [get?_variables, get?_variables] at hsame
  have hinjective : Function.Injective Value.texts := fun _ _ => Value.texts_inj.mp
  refine Option.map_injective hinjective ?_
  rw [Option.map_map, Option.map_map]
  exact hsame

theorem nested_eq_of_serialize : g.nested.map serializeAll = f.nested.map serializeAll := by
  have hsame := congrArg (get? "fields") (entries_eq_of_serialize h)
  rw [get?_fields, get?_fields] at hsame
  have hinjective : Function.Injective Value.map := fun _ _ => Value.map.inj
  refine Option.map_injective hinjective ?_
  rw [Option.map_map, Option.map_map]
  exact hsame

theorem item_eq_of_serialize : g.item.map serialize = f.item.map serialize := by
  have hsame := congrArg (get? "item") (entries_eq_of_serialize h)
  rwa [get?_item, get?_item] at hsame

/-- The cascade is there for both or for neither, with the entries that it alone writes. -/
theorem declared_eq_of_serialize (hf : ∀ c, f.cascade = some c → c.declared.Tidy)
    (hg : ∀ c, g.cascade = some c → c.declared.Tidy) :
    g.cascade.map Cascade.declared = f.cascade.map Cascade.declared := by
  have hentries := entries_eq_of_serialize h
  have hcascade : ∀ key ∉ ownKeys, (g.cascade.bind fun c => get? key c.toEntries) =
      f.cascade.bind fun c => get? key c.toEntries := by
    intro key hkey
    rw [← get?_entries_of_cascade hkey, ← get?_entries_of_cascade hkey, hentries]
  have hliteral := literal_eq_of_serialize h
  have hoperator := hcascade "operator" (by decide)
  cases hc : f.cascade with
  | none =>
      cases hc' : g.cascade with
      | none => rfl
      | some c' => simp [hc, hc', Cascade.get?_operator] at hoperator
  | some c =>
      cases hc' : g.cascade with
      | none => simp [hc, hc', Cascade.get?_operator] at hoperator
      | some c' =>
          simp only [literal, hc, hc'] at hliteral
          refine congrArg some (Cascade.declared_eq_of_entries (hf c hc) (hg c' hc') ?_ hliteral)
          intro key hkey
          simpa only [hc, hc', Option.bind_some] using hcascade key hkey

end Serialize

/-! ## Kin -/

/-- The fields are written alike, and only their descriptions and members may differ. -/
structure Kin (f g : Field) : Prop where
  rest : ∃ description nested item, g = { f with description, nested, item }
  serialize : g.serialize = f.serialize

/-- A field may be given other members and another description, when that is not seen in what is
written. -/
theorem kin_of_literal {f : Field} {description : String} {nested : Option (List (String × Field))}
    {item : Option Field}
    (hliteral : ({ f with description, nested, item } : Field).literal = f.literal)
    (hnested : serializeNested nested = serializeNested f.nested)
    (hitem : serializeItem item = serializeItem f.item) :
    f.Kin { f with description, nested, item } := by
  refine ⟨⟨_, _, _, rfl⟩, ?_⟩
  have hhead : ({ f with description, nested, item } : Field).headEntries = f.headEntries := by
    simp only [headEntries, hliteral]
  have htail : ({ f with description, nested, item } : Field).tailEntries = f.tailEntries := rfl
  rw [serialize_eq, serialize_eq, entries, entries, hhead, htail, hnested, hitem]

theorem Kin.refl (f : Field) : f.Kin f := by
  cases f
  exact ⟨⟨_, _, _, rfl⟩, rfl⟩

theorem Kin.payload? {f g : Field} (h : f.Kin g) : g.payload? = f.payload? := by
  obtain ⟨description, nested, item, rfl⟩ := h.rest
  rfl

/-- Lists of kin are kin, when both have the descriptions of their elements or neither has. -/
theorem Kin.ofElement {i i' : Field} (h : i.Kin i') {shared shared' : Bool}
    (hshared : i.payload? = none → shared' = shared) (name : String) :
    (Field.ofElement name shared i).Kin (.ofElement name shared' i') := by
  have hliteral : (Field.ofElement name shared' i').literal =
      (Field.ofElement name shared i).literal := by
    rw [literal_ofElement, literal_ofElement, h.payload?]
    cases hpayload : i.payload? with
    | some text => rfl
    | none =>
        have hsame := literal_eq_of_serialize h.serialize
        rw [literal_eq, literal_eq, h.payload?, hpayload] at hsame
        simp only [Option.getD_none] at hsame
        rw [hshared hpayload, hsame]
  have hitem : serializeItem (some i') = serializeItem (some i) := by
    simp only [serializeItem, h.serialize]
  obtain ⟨description, nested, item, rfl⟩ := h.rest
  exact kin_of_literal hliteral rfl hitem

/-- Objects whose nested fields are written alike are kin. -/
theorem kin_of_nested {fs fs' : List (String × Field)} (h : serializeAll fs' = serializeAll fs)
    (name : String) : Kin
      { name, description := name, source := .input, type := .object, nested := some fs }
      { name, description := name, source := .input, type := .object, nested := some fs' } := by
  have hnested : serializeNested (some fs') = serializeNested (some fs) := by
    simp only [serializeNested, h]
  exact kin_of_literal rfl hnested rfl

end Field

end Entity
