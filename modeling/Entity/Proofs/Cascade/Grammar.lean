import Entity.Proofs.Cascade.Filters
import Mathlib.Tactic.Common

/-!
# Printed cascades

A cascade is printed as its route parameter, its prompt, its operator, its target with a predicate,
and its filters, one after the other; reading finds each part again.  Main statement: reading the
text of a canonical cascade gives its description and the cascade itself.
-/

namespace Entity

open Entity.Text

/-! ## Canonical cascades -/

/-- A text that can stand before an operator: not empty, without blanks at its ends, and without the
token of an operator. -/
structure PromptText (s : String) : Prop where
  ne_empty : s ≠ ""
  trimmed : Text.trimmed s = s
  noToken : ∀ op : CascadeOperator, ¬ op.token.toList <:+: s.toList

/-- A cascade whose parts are found again in its text. -/
structure Cascade.Canonical (c : Cascade) : Prop where
  target : Word c.target.toList
  predicate : ∀ p, c.predicate = some p → Word p.toList
  route : ∀ r, c.route = some r → Word r.toList
  filters : ∀ f ∈ c.filters, f.Canonical
  prompt : ∀ p, c.prompt = some p → PromptText p
  colon : c.route = none → ∀ p, c.prompt = some p → p.toList.head? ≠ some ':'
  rejected : c.rejected = []
  isArray : c.isArray = false
  selector : c.selector = none

/-- A text that is there and never empty is there. -/
theorem nonEmpty?_eq_self {o : Option String} (h : ∀ s, o = some s → s ≠ "") :
    nonEmpty? o = o := by
  cases o with
  | none => rfl
  | some s =>
      have hs : s.isEmpty = false := by
        simpa using h s rfl
      simp [nonEmpty?, hs]

theorem Text.Word.ne_empty {s : String} (h : Word s.toList) : s ≠ "" := by
  rintro rfl
  exact h.ne_nil rfl

theorem PromptText.solid {s : String} (h : PromptText s) :
    SolidStart s.toList ∧ SolidEnd s.toList := by
  have htrim := congrArg String.toList h.trimmed
  rw [Text.trimmed, String.toList_ofList] at htrim
  exact solid_of_trim htrim fun hnil => h.ne_empty (String.toList_eq_nil_iff.mp hnil)

/-! ## Operators -/

/-- The first character of a token. -/
theorem token_operator (op : CascadeOperator) : ∃ c rest, op.token.toList = c :: rest ∧
    isBlank c = false ∧ c ≠ ':' ∧ c ≠ ' ' ∧ ' ' ∉ rest := by
  cases op
  · exact ⟨'<', _, rfl, by decide⟩
  · exact ⟨'<', _, rfl, by decide⟩
  · exact ⟨'<', _, rfl, by decide⟩
  · exact ⟨'~', _, rfl, by decide⟩
  · exact ⟨'<', _, rfl, by decide⟩
  · exact ⟨'-', _, rfl, by decide⟩

/-- An operator that is found stands at the start. -/
theorem operatorAt?_eq_some {cs : List Char} {op : CascadeOperator} {rest : List Char}
    (h : operatorAt? cs = some (op, rest)) : cs = op.token.toList ++ rest := by
  obtain ⟨op', _, hfound⟩ := List.exists_of_findSome?_eq_some h
  split at hfound
  · rename_i hafter
    cases hfound
    exact afterStart?_eq_some hafter
  · cases hfound

/-- A printed operator is found before a word: no longer token stands there. -/
theorem operatorAt?_token (op : CascadeOperator) {c : Char} (hc : isWord c = true)
    (rest : List Char) :
    operatorAt? (op.token.toList ++ c :: rest) = some (op, c :: rest) := by
  have hgt : '>' ≠ c := by
    rintro rfl
    revert hc
    decide
  cases op <;> simp [operatorAt?, CascadeOperator.all, CascadeOperator.token, afterStart?, hgt]

/-- A token that begins a text before a blank begins the part before the blank. -/
theorem prefix_of_prefix_append {token cs rest : List Char} {c : Char} (hc : c ∉ token)
    (h : token <+: cs ++ c :: rest) : token <+: cs := by
  induction token generalizing cs with
  | nil => exact List.nil_prefix
  | cons a token ih =>
      rw [List.mem_cons, not_or] at hc
      cases cs with
      | nil =>
          rw [List.nil_append, List.cons_prefix_cons] at h
          exact absurd h.1.symm hc.1
      | cons d cs =>
          rw [List.cons_append, List.cons_prefix_cons] at h
          exact List.cons_prefix_cons.mpr ⟨h.1, ih hc.2 h.2⟩

theorem not_mem_token (op : CascadeOperator) : ' ' ∉ op.token.toList := by
  cases op <;> decide

/-- A character at which no operator stands comes before the operator. -/
theorem splitOperator?_cons {d : Char} {cs : List Char} (h : operatorAt? (d :: cs) = none) :
    splitOperator? (d :: cs) =
      (splitOperator? cs).map fun (before, op, after) => (d :: before, op, after) := by
  rw [splitOperator?, h]

theorem splitOperator?_token (op : CascadeOperator) {c : Char} (hc : isWord c = true)
    (rest : List Char) :
    splitOperator? (op.token.toList ++ c :: rest) = some ([], op, c :: rest) := by
  have hop := operatorAt?_token op hc rest
  obtain ⟨d, token, htoken, _⟩ := token_operator op
  rw [htoken, List.cons_append] at hop ⊢
  rw [splitOperator?, hop]

/-- No operator stands where no token begins. -/
theorem operatorAt?_eq_none {cs : List Char}
    (h : ∀ op : CascadeOperator, ¬ op.token.toList <+: cs) : operatorAt? cs = none := by
  cases hop : operatorAt? cs with
  | none => rfl
  | some found =>
      obtain ⟨op, rest⟩ := found
      exact absurd ⟨rest, (operatorAt?_eq_some hop).symm⟩ (h op)

/-- The leftmost operator of a text is the one after the prompt: in a prompt there is none, and none
reaches over the blank that ends it. -/
theorem splitOperator?_append {cs : List Char}
    (h : ∀ op : CascadeOperator, ¬ op.token.toList <:+: cs) (op : CascadeOperator) {c : Char}
    (hc : isWord c = true) (rest : List Char) :
    splitOperator? (cs ++ ' ' :: (op.token.toList ++ c :: rest)) =
      some (cs ++ [' '], op, c :: rest) := by
  have hnone : ∀ ds : List Char, (∀ op' : CascadeOperator, ¬ op'.token.toList <:+: ds) →
      operatorAt? (ds ++ ' ' :: (op.token.toList ++ c :: rest)) = none := by
    intro ds hds
    apply operatorAt?_eq_none
    intro op' hbegins
    exact hds op' (prefix_of_prefix_append (not_mem_token op') hbegins).isInfix
  -- by induction on the prompt: no operator stands at any of its characters, nor at the blank
  induction cs with
  | nil =>
      rw [List.nil_append, splitOperator?_cons (hnone [] h), splitOperator?_token op hc]
      rfl
  | cons d cs ih =>
      have hcs : ∀ op' : CascadeOperator, ¬ op'.token.toList <:+: cs := fun op' hpart =>
        h op' (hpart.trans (List.suffix_cons d cs).isInfix)
      have hhere := hnone (d :: cs) h
      rw [List.cons_append] at hhere ⊢
      rw [splitOperator?_cons hhere, ih hcs]
      rfl

/-! ## Targets -/

/-- A text without an opening bracket has no filters. -/
theorem bracketed?_of_not_mem {cs : List Char} (h : '[' ∉ cs) : bracketed? cs = none := by
  induction cs with
  | nil => rfl
  | cons c cs ih =>
      rw [List.mem_cons, not_or] at h
      rw [bracketed?, if_neg (Ne.symm h.1), ih h.2]
      rfl

/-- The first bracket opens the filters, and the first closing bracket after it closes them. -/
theorem bracketed?_append {cs inside : List Char} (h : '[' ∉ cs) (hne : inside ≠ [])
    (hinside : ']' ∉ inside) :
    bracketed? (cs ++ '[' :: (inside ++ [']'])) = some (cs, inside, []) := by
  induction cs with
  | nil =>
      obtain ⟨i, rest, rfl⟩ := List.exists_cons_of_ne_nil hne
      rw [List.nil_append, bracketed?, if_pos rfl, cutAt?_append hinside]
  | cons c cs ih =>
      rw [List.mem_cons, not_or] at h
      rw [List.cons_append, bracketed?, if_neg (Ne.symm h.1), ih h.2]
      rfl

/-- A word is no target with a predicate. -/
theorem dotted?_of_word {cs : List Char} (h : Word cs) : dotted? cs = none := by
  have hbegins : wordPrefix cs = (cs, []) := by
    have hp := wordPrefix_append h fun c (hc : ([] : List Char).head? = some c) => by cases hc
    rwa [List.append_nil] at hp
  rw [dotted?, hbegins]

/-- Two words with a point between them are a target with a predicate. -/
theorem dotted?_append {cs ds : List Char} (hcs : Word cs) (hds : Word ds) :
    dotted? (cs ++ '.' :: ds) = some (cs, ds) := by
  have hbegins : wordPrefix (cs ++ '.' :: ds) = (cs, '.' :: ds) := by
    apply wordPrefix_append hcs
    intro c hc
    cases hc
    decide
  have hall : ds.all isWord = true := List.all_eq_true.mpr hds.all
  rw [dotted?, hbegins]
  simp [hcs.ne_nil, hds.ne_nil, hall]

namespace Cascade

variable {c : Cascade}

/-- The target with its predicate is a word, or two words with a point between them. -/
theorem Canonical.qualifiedTarget (h : c.Canonical) : c.qualifiedTarget.toList =
    c.target.toList ++ match c.predicate with
      | some p => '.' :: p.toList
      | none => [] := by
  rw [Cascade.qualifiedTarget, nonEmpty?_eq_self fun p hp => (h.predicate p hp).ne_empty]
  cases c.predicate <;> simp [String.toList_append]

/-- The target begins with a word character and ends with one, and no bracket stands in it. -/
theorem Canonical.target_ends (h : c.Canonical) :
    (∃ d rest, c.qualifiedTarget.toList = d :: rest ∧ isWord d = true) ∧
      SolidEnd c.qualifiedTarget.toList ∧ '[' ∉ c.qualifiedTarget.toList := by
  have htarget := h.target
  rw [h.qualifiedTarget]
  refine ⟨?_, ?_, ?_⟩
  · obtain ⟨d, rest, hd⟩ := List.exists_cons_of_ne_nil htarget.ne_nil
    refine ⟨d, _, by rw [hd]; rfl, htarget.all d (by rw [hd]; simp)⟩
  · cases hp : c.predicate with
    | none => simpa using htarget.solidEnd
    | some p => exact ((h.predicate p hp).solidEnd.append ['.']).append _
  · cases hp : c.predicate with
    | none => simpa using htarget.not_mem (by decide)
    | some p =>
        have hno := (h.predicate p hp).not_mem (c := '[') (by decide)
        simp [htarget.not_mem (c := '[') (by decide), hno]

/-- Reading a printed target without filters finds the target and the predicate. -/
theorem Canonical.dotted? (h : c.Canonical) :
    (match Entity.dotted? c.qualifiedTarget.toList with
      | some (type, field) =>
        (String.ofList type, some (String.ofList field), c.filters, ([] : List String))
      | none => (String.ofList c.qualifiedTarget.toList, none, c.filters, [])) =
      (c.target, c.predicate, c.filters, []) := by
  rw [h.qualifiedTarget]
  cases hp : c.predicate with
  | none =>
      rw [List.append_nil, dotted?_of_word h.target]
      simp
  | some p =>
      rw [dotted?_append h.target (h.predicate p hp)]
      simp

/-- The target, the predicate and the filters are read back. -/
theorem Canonical.readTarget (h : c.Canonical) :
    Entity.readTarget (c.qualifiedTarget.toList ++ (filterText c.filters).toList) =
      .ok (c.target, c.predicate, c.filters, []) := by
  obtain ⟨⟨d, rest, hd, hword⟩, hend, hbracket⟩ := h.target_ends
  have hdotted := h.dotted?
  unfold Entity.readTarget
  cases hf : c.filters with
  | nil =>
      rw [hf] at hdotted
      have htext : c.qualifiedTarget.toList ++ (filterText []).toList =
          c.qualifiedTarget.toList := List.append_nil _
      rw [htext, bracketed?_of_not_mem hbracket]
      exact congrArg Except.ok hdotted
  | cons f fs =>
      rw [hf] at hdotted
      have hfs : ∀ g ∈ f :: fs, g.Canonical := hf ▸ h.filters
      have hne : joinWith [',', ' '] ((f :: fs).map fun g => g.toText.toList) ≠ [] := by
        intro hnil
        have hbegins := prefix_joinWith [',', ' '] f.toText.toList (fs.map fun g => g.toText.toList)
        rw [← List.map_cons (f := fun g : Filter => g.toText.toList), hnil,
          List.prefix_nil] at hbegins
        exact (hfs f (by simp)).solid.1.ne_nil hbegins
      have hclose : ']' ∉ joinWith [',', ' '] ((f :: fs).map fun g => g.toText.toList) := by
        apply not_mem_joinWith (by decide)
        intro p hp
        obtain ⟨g, hg, rfl⟩ := List.mem_map.mp hp
        exact (hfs g hg).not_mem.2
      have hstart : SolidStart c.qualifiedTarget.toList :=
        ⟨d, rest, hd, isBlank_of_isWord hword⟩
      rw [toList_filterText, bracketed?_append hbracket hne hclose]
      simp only [bind, Except.bind, pure, Except.pure]
      rw [readFilters_joinWith hfs]
      simp only
      rw [List.append_nil, trim_of_solid hstart hend]
      exact congrArg Except.ok hdotted

/-! ## Texts of cascades -/

/-- The operator with what comes after it. -/
def linkText (c : Cascade) : List Char :=
  c.operator.token.toList ++ (c.qualifiedTarget.toList ++ (filterText c.filters).toList)

/-- The prompt with what comes after it. -/
def promptedText (c : Cascade) : List Char :=
  match c.prompt with
  | some p => p.toList ++ ' ' :: c.linkText
  | none => c.linkText

/-- The parts of a printed cascade, where no empty text stands for none. -/
theorem toList_toGrammar (hprompt : nonEmpty? c.prompt = c.prompt)
    (hroute : nonEmpty? c.route = c.route) : c.toGrammar.toList =
      match c.route with
      | some r => ':' :: (r.toList ++ ' ' :: c.promptedText)
      | none => c.promptedText := by
  rw [toGrammar, promptedText, linkText, hroute, hprompt]
  cases c.route <;> cases c.prompt <;> simp [String.toList_append]

theorem Canonical.toList_toGrammar (h : c.Canonical) : c.toGrammar.toList =
    match c.route with
    | some r => ':' :: (r.toList ++ ' ' :: c.promptedText)
    | none => c.promptedText :=
  Cascade.toList_toGrammar (nonEmpty?_eq_self fun p hp => (h.prompt p hp).ne_empty)
    (nonEmpty?_eq_self fun r hr => (h.route r hr).ne_empty)

/-- Nothing is trimmed off what comes after the operator. -/
theorem Canonical.trim_target (h : c.Canonical) :
    trim (c.qualifiedTarget.toList ++ (filterText c.filters).toList) =
      c.qualifiedTarget.toList ++ (filterText c.filters).toList ∧
    SolidEnd (c.qualifiedTarget.toList ++ (filterText c.filters).toList) := by
  obtain ⟨⟨d, rest, hd, hword⟩, hend, _⟩ := h.target_ends
  have hstart : SolidStart c.qualifiedTarget.toList := ⟨d, rest, hd, isBlank_of_isWord hword⟩
  have hstop : SolidEnd (c.qualifiedTarget.toList ++ (filterText c.filters).toList) := by
    cases c.filters with
    | nil =>
        rw [show (filterText []).toList = [] from rfl, List.append_nil]
        exact hend
    | cons f fs =>
        rw [toList_filterText]
        have hbracket : SolidEnd [']'] := ⟨[], ']', rfl, rfl⟩
        exact ((hbracket.append _).append ['[']).append _
  exact ⟨trim_of_solid (hstart.append _) hstop, hstop⟩

/-- The operator is found after the prompt. -/
theorem Canonical.splitOperator? (h : c.Canonical) : Entity.splitOperator? c.promptedText =
    some (match c.prompt with
      | some p => p.toList ++ [' ']
      | none => [], c.operator,
      c.qualifiedTarget.toList ++ (filterText c.filters).toList) := by
  obtain ⟨⟨d, rest, hd, hword⟩, _⟩ := h.target_ends
  rw [promptedText, linkText, hd, List.cons_append]
  cases hp : c.prompt with
  | none => exact splitOperator?_token _ hword _
  | some p => exact splitOperator?_append (h.prompt p hp).noToken _ hword _

/-- What comes after the route parameter has solid ends. -/
theorem Canonical.solid_promptedText (h : c.Canonical) :
    SolidStart c.promptedText ∧ SolidEnd c.promptedText := by
  obtain ⟨d, token, htoken, hblank, _⟩ := token_operator c.operator
  have hlink : SolidEnd c.linkText := h.trim_target.2.append _
  rw [promptedText]
  cases hp : c.prompt with
  | none =>
      refine ⟨?_, hlink⟩
      show SolidStart (c.operator.token.toList ++ _)
      rw [htoken]
      exact ⟨d, _, rfl, hblank⟩
  | some p =>
      exact ⟨(h.prompt p hp).solid.1.append _, (hlink.append [' ']).append _⟩

/-- What is printed has solid ends. -/
theorem Canonical.solid_toGrammar (h : c.Canonical) :
    SolidStart c.toGrammar.toList ∧ SolidEnd c.toGrammar.toList := by
  obtain ⟨hstart, hstop⟩ := h.solid_promptedText
  rw [h.toList_toGrammar]
  cases hr : c.route with
  | none => exact ⟨hstart, hstop⟩
  | some r => exact ⟨⟨':', _, rfl, rfl⟩, ((hstop.append [' ']).append r.toList).append [':']⟩

theorem Canonical.trimmed_toGrammar (h : c.Canonical) : trimmed c.toGrammar = c.toGrammar := by
  rw [trimmed, trim_of_solid h.solid_toGrammar.1 h.solid_toGrammar.2, String.ofList_toList]

/-- Without a route parameter the text does not begin as one. -/
theorem Canonical.route?_promptedText (h : c.Canonical) (hroute : c.route = none) :
    route? c.promptedText = none := by
  have hhead : c.promptedText.head? ≠ some ':' := by
    rw [promptedText]
    -- the text begins with a token or with the prompt
    cases hp : c.prompt with
    | none =>
        obtain ⟨d, token, htoken, _, hcolon, _⟩ := token_operator c.operator
        rw [linkText, htoken]
        simpa using hcolon
    | some p =>
        have hne := (h.prompt p hp).solid.1.ne_nil
        obtain ⟨d, rest, hd⟩ := List.exists_cons_of_ne_nil hne
        have hcolon := h.colon hroute p hp
        show (p.toList ++ ' ' :: c.linkText).head? ≠ some ':'
        rw [hd] at hcolon ⊢
        exact hcolon
  unfold route?
  split
  · rename_i cs heq
    rw [heq] at hhead
    exact absurd rfl hhead
  · rfl

/-- A route parameter is taken off. -/
theorem route?_append {name body : List Char} (hname : Word name) (hbody : SolidStart body) :
    route? (':' :: (name ++ ' ' :: body)) = some (name, body) := by
  have hword : wordPrefix (name ++ ' ' :: body) = (name, ' ' :: body) := by
    apply wordPrefix_append hname
    intro c hc
    cases hc
    decide
  have hstart : trimStart (' ' :: body) = body := trimStart_of_solid hbody
  rw [route?, hword]
  dsimp only
  rw [hstart]
  simp [hname.ne_nil, hbody.ne_nil]

theorem Canonical.withoutRoute (h : c.Canonical) :
    Entity.withoutRoute c.toGrammar.toList = (c.route.map String.toList, c.promptedText) := by
  obtain ⟨hstart, hstop⟩ := h.solid_toGrammar
  rw [Entity.withoutRoute, trim_of_solid hstart hstop, h.toList_toGrammar]
  cases hr : c.route with
  | none =>
      dsimp only
      rw [h.route?_promptedText hr]
      rfl
  | some r =>
      dsimp only
      rw [route?_append (h.route r hr) h.solid_promptedText.1]
      rfl

/-- The blank after the prompt is trimmed off. -/
theorem Canonical.trim_prompt (h : c.Canonical) :
    (let prompt := trim (match c.prompt with
      | some p => p.toList ++ [' ']
      | none => [])
    if prompt.isEmpty then none else some (String.ofList prompt)) = c.prompt := by
  cases hp : c.prompt with
  | none => rfl
  | some p =>
      obtain ⟨hstart, hstop⟩ := (h.prompt p hp).solid
      have htrim : trim (p.toList ++ [' ']) = p.toList := trim_concat_blank rfl hstart hstop
      have hne : p.toList.isEmpty = false := by
        simpa using hstart.ne_nil
      dsimp only
      rw [htrim, hne]
      simp

/-- The cascade is read back. -/
theorem Canonical.read? (h : c.Canonical) : Cascade.read? c.toGrammar = .ok (some c) := by
  have hroute : (c.route.map String.toList).map String.ofList = c.route := by
    cases c.route <;> simp
  have hprompt := h.trim_prompt
  rw [Cascade.read?, h.withoutRoute]
  dsimp only
  rw [h.splitOperator?]
  dsimp only
  rw [h.trim_target.1, h.readTarget]
  simp only [bind, Except.bind, pure, Except.pure]
  rw [hroute]
  dsimp only at hprompt
  rw [hprompt, ← h.rejected, ← h.isArray, ← h.selector]

end Cascade

/-- **Printing and reading are inverse on canonical cascades.** -/
theorem read_toGrammar {c : Cascade} (h : c.Canonical) :
    (Cascade.read c.toGrammar).result = .ok (c.description, some c) := by
  unfold Cascade.read
  rw [h.read?]
  rfl

/-- A cascade with every part and a filter of every kind. -/
def Cascade.leads : Cascade where
  operator := .fuzzyIncoming
  target := "Lead"
  predicate := some "owner"
  route := some "slug"
  filters := [⟨"open", .eq, .bool true⟩, ⟨"mrr", .lt, .int (-5)⟩, ⟨"note", .ge, .text "a -> [b"⟩]
  prompt := some "Leads of {name}: who?"

/-- Every token holds a tilde or a hyphen. -/
theorem not_isInfix_token {cs : List Char} (htilde : '~' ∉ cs) (hhyphen : '-' ∉ cs)
    (op : CascadeOperator) : ¬ op.token.toList <:+: cs := by
  intro hpart
  have hsub := hpart.subset
  cases op
  case outgoing | incoming | bidirectional => exact hhyphen (hsub (by decide))
  all_goals exact htilde (hsub (by decide))

theorem Cascade.canonical_leads : Cascade.leads.Canonical := by
  refine ⟨word_of_all (by decide) (by decide), ?_, ?_, ?_, ?_, ?_, rfl, rfl, rfl⟩
  · intro p hp
    cases hp
    exact word_of_all (by decide) (by decide)
  · intro r hr
    cases hr
    exact word_of_all (by decide) (by decide)
  · intro f hf
    simp only [Cascade.leads, List.mem_cons, List.not_mem_nil, or_false] at hf
    rcases hf with rfl | rfl | rfl
    · exact ⟨word_of_all (by decide) (by decide), trivial⟩
    · refine ⟨word_of_all (by decide) (by decide), ?_⟩
      show (Nat.toDigits 10 5).length ≤ Numeral.digitLimit
      decide
    · exact ⟨word_of_all (by decide) (by decide), by decide, rfl, by decide, by decide, by decide,
        by decide, by decide, rfl, by decide⟩
  · intro p hp
    cases hp
    exact ⟨by decide, rfl, not_isInfix_token (by decide) (by decide)⟩
  · intro hr
    cases hr

/-- The general statement for a cascade with every part. -/
theorem read_toGrammar_leads : Cascade.leads.Canonical ∧
    (Cascade.read Cascade.leads.toGrammar).result =
      .ok (Cascade.leads.description, some Cascade.leads) :=
  ⟨Cascade.canonical_leads, read_toGrammar Cascade.canonical_leads⟩

end Entity
