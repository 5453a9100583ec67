import Entity.Proofs.Cascade.Grammar
import Entity.Proofs.Outcome
import Mathlib.Tactic.Common

/-!
# Where operators are read

The operator of a cascade text is looked for from the left, and at each place the longer tokens are
tried first; a token needs something after it.  Main statement: the operator stands at the leftmost
place where any token begins, and it is the longest token there unless the text ends with that
token and with the closing angle bracket of `<~>` or `<->`.
-/

namespace Entity

open Entity.Text

/-! ## Tokens in texts -/

/-- The token of an operator begins the text. -/
def BeginsOperator (cs : List Char) : Prop := ∃ op : CascadeOperator, op.token.toList <+: cs

/-- The text is cut at the leftmost place where the token of an operator begins. -/
structure LeftmostToken (body before rest : List Char) : Prop where
  split : body = before ++ rest
  begins : BeginsOperator rest
  first : ∀ i < before.length, ¬ BeginsOperator (body.drop i)

/-- No longer token begins the text. -/
structure LongestToken (op : CascadeOperator) (cs : List Char) : Prop where
  begins : op.token.toList <+: cs
  longest : ∀ other : CascadeOperator, other.token.toList <+: cs →
    other.token.length ≤ op.token.length

theorem CascadeOperator.mem_all (op : CascadeOperator) : op ∈ CascadeOperator.all := by
  cases op <;> decide

/-- Longer tokens are tried first. -/
theorem CascadeOperator.pairwise_all :
    CascadeOperator.all.Pairwise fun a b => b.token.length ≤ a.token.length := by
  decide

theorem two_le_length_token (op : CascadeOperator) : 2 ≤ op.token.length := by
  cases op <;> decide

/-! ## One place of a text -/

/-- A token that is passed over at a place is all that is left there. -/
theorem eq_token_of_passed {op : CascadeOperator} {cs : List Char}
    (hpassed : (match afterStart? op.token.toList cs with
      | some (c :: rest) => some (op, c :: rest)
      | _ => none) = none) (hbegins : op.token.toList <+: cs) : cs = op.token.toList := by
  obtain ⟨rest, rfl⟩ := hbegins
  rw [afterStart?_append] at hpassed
  cases rest with
  | nil => rw [List.append_nil]
  | cons c rest => cases hpassed

/-- Something stands after an operator that is found. -/
theorem ne_nil_of_operatorAt? {cs after : List Char} {op : CascadeOperator}
    (h : operatorAt? cs = some (op, after)) : after ≠ [] := by
  obtain ⟨_, _, hfound⟩ := List.exists_of_findSome?_eq_some h
  split at hfound
  · cases hfound
    exact List.cons_ne_nil _ _
  · cases hfound

/-- A token at the place of the operator is not longer, or it is all that is left there. -/
theorem length_token_le_of_operatorAt? {cs after : List Char} {op other : CascadeOperator}
    (h : operatorAt? cs = some (op, after)) (hother : other.token.toList <+: cs) :
    other.token.length ≤ op.token.length ∨ cs = other.token.toList := by
  obtain ⟨found, -, hfound, hpassed⟩ :=
    exists_largest_of_findSome? CascadeOperator.pairwise_all h
  obtain rfl : found = op := by
    split at hfound
    · cases hfound
      rfl
    · cases hfound
  rcases Nat.lt_or_ge found.token.length other.token.length with hlonger | hle
  · exact Or.inr (eq_token_of_passed (hpassed other other.mem_all hlonger) hother)
  · exact Or.inl hle

/-- The operator at a place is the longest token there, unless the place is the end of the text and
the token there is three characters long. -/
theorem longestToken_iff_of_operatorAt? {cs after : List Char} {op : CascadeOperator}
    (h : operatorAt? cs = some (op, after)) :
    LongestToken op cs ↔ cs ≠ "<~>".toList ∧ cs ≠ "<->".toList := by
  have hcs := operatorAt?_eq_some h
  constructor
  · rintro ⟨-, hlongest⟩
    -- at the end of the text the three characters would have nothing after them
    have hshort : ∀ other : CascadeOperator, other.token.length = 3 → cs ≠ other.token.toList := by
      intro other hlength heq
      have hle := hlongest other (heq ▸ List.prefix_rfl)
      have hsum := congrArg List.length (heq.symm.trans hcs)
      have hpos := List.length_pos_iff.mpr (ne_nil_of_operatorAt? h)
      simp only [List.length_append, String.length_toList] at hsum
      omega
    exact ⟨hshort .fuzzyBidirectional rfl, hshort .bidirectional rfl⟩
  · rintro ⟨htilde, hhyphen⟩
    refine ⟨⟨after, hcs.symm⟩, fun other hother => ?_⟩
    rcases length_token_le_of_operatorAt? h hother with hle | heq
    · exact hle
    · -- the token that is left has two characters, and no token has fewer
      cases other
      case fuzzyBidirectional => exact absurd heq htilde
      case bidirectional => exact absurd heq hhyphen
      all_goals exact two_le_length_token op

/-- No operator is found from a place on where a token stands with nothing after it. -/
theorem splitOperator?_of_begins {cs : List Char} (hnone : operatorAt? cs = none)
    (hbegins : BeginsOperator cs) : splitOperator? cs = none := by
  obtain ⟨op, hop⟩ := hbegins
  have hpassed := List.findSome?_eq_none_iff.mp hnone op op.mem_all
  obtain rfl := eq_token_of_passed hpassed hop
  -- the tokens of three characters begin with a shorter one, and the others have two characters
  cases op
  case fuzzyBidirectional | bidirectional => cases hnone
  all_goals rfl

/-! ## The leftmost place -/

/-- The operator stands at the leftmost place where a token begins. -/
theorem leftmostToken_of_splitOperator? {body before after : List Char} {op : CascadeOperator}
    (h : splitOperator? body = some (before, op, after)) :
    LeftmostToken body before (op.token.toList ++ after) ∧
      operatorAt? (op.token.toList ++ after) = some (op, after) := by
  induction body generalizing before with
  | nil => cases h
  | cons c cs ih =>
      have hwhole := h
      rw [splitOperator?] at h
      split at h
      · rename_i op' rest hop
        cases h
        have hcs := operatorAt?_eq_some hop
        rw [hcs] at hop ⊢
        exact ⟨⟨rfl, ⟨op, List.prefix_append _ _⟩, fun i hi => absurd hi (Nat.not_lt_zero i)⟩, hop⟩
      · rename_i hnone
        obtain ⟨⟨before', op', after'⟩, hrest, heq⟩ := Option.map_eq_some_iff.mp h
        cases heq
        obtain ⟨hleft, hop⟩ := ih hrest
        refine ⟨⟨congrArg (c :: ·) hleft.split, hleft.begins, ?_⟩, hop⟩
        intro i hi hbegins
        cases i with
        | zero =>
            rw [List.drop_zero] at hbegins
            rw [splitOperator?_of_begins hnone hbegins] at hwhole
            cases hwhole
        | succ i => exact hleft.first i (Nat.lt_of_succ_lt_succ hi) hbegins

theorem trim_isInfix (cs : List Char) : trim cs <:+: cs :=
  (trimEnd_prefix_self _).isInfix.trans (List.dropWhile_suffix isBlank).isInfix

/-- No token stands before the leftmost one. -/
theorem LeftmostToken.not_isInfix {body before rest : List Char} (h : LeftmostToken body before rest)
    (op : CascadeOperator) : ¬ op.token.toList <:+: trim before := by
  intro hpart
  obtain ⟨cs, ds, heq⟩ := hpart.trans (trim_isInfix before)
  have hlong := two_le_length_token op
  have hlt : cs.length < before.length := by
    rw [← heq, List.length_append, List.length_append, String.length_toList]
    omega
  refine h.first cs.length hlt ⟨op, ?_⟩
  rw [h.split, ← heq, List.append_assoc, List.append_assoc, List.drop_left]
  exact List.prefix_append _ _

/-! ## Route parameters -/

/-- The text begins with a route parameter: a word after a colon, blanks, and the body. -/
structure BeginsRoute (cs name body : List Char) : Prop where
  word : Word name
  solid : SolidStart body
  split : ∃ blanks, blanks ≠ [] ∧ (∀ c ∈ blanks, isBlank c = true) ∧
    cs = ':' :: (name ++ (blanks ++ body))

theorem route?_eq_some_iff {cs name body : List Char} :
    route? cs = some (name, body) ↔ BeginsRoute cs name body := by
  constructor
  · intro h
    unfold route? at h
    split at h
    · rename_i rest
      rw [wordPrefix, List.span_eq_takeWhile_dropWhile] at h
      dsimp only at h
      split at h
      · cases h
      · rename_i hne
        cases h
        simp only [List.isEmpty_iff, Bool.or_eq_true, decide_eq_true_eq, not_or] at hne
        obtain ⟨⟨hname, hlength⟩, hbody⟩ := hne
        have hall : ∀ c ∈ rest.takeWhile isWord, isWord c = true :=
          fun c hc => List.mem_takeWhile_imp hc
        obtain ⟨b, more, hmore⟩ := List.exists_cons_of_ne_nil hbody
        refine ⟨⟨hname, hall⟩, ⟨b, more, hmore, isBlank_of_dropWhile hmore⟩,
          (rest.dropWhile isWord).takeWhile isBlank, ?_, fun c hc => List.mem_takeWhile_imp hc, ?_⟩
        · -- dropping no blanks would leave the length as it is
          intro hnil
          have hsplit := List.takeWhile_append_dropWhile (p := isBlank) (l := rest.dropWhile isWord)
          rw [hnil, List.nil_append] at hsplit
          exact hlength (congrArg List.length hsplit)
        · rw [trimStart, List.takeWhile_append_dropWhile, List.takeWhile_append_dropWhile]
    · cases h
  · rintro ⟨hname, hbody, blanks, hne, hblanks, rfl⟩
    obtain ⟨b, blanks, rfl⟩ := List.exists_cons_of_ne_nil hne
    have hword : wordPrefix (name ++ (b :: blanks ++ body)) = (name, b :: blanks ++ body) := by
      apply wordPrefix_append hname
      rintro _ ⟨⟩
      by_contra hb
      have hsolid := isBlank_of_isWord (by simpa using hb)
      rw [hblanks b (by simp)] at hsolid
      cases hsolid
    have hstart : trimStart (b :: blanks ++ body) = body := by
      rw [trimStart, List.dropWhile_append_of_pos hblanks]
      exact trimStart_of_solid hbody
    rw [route?, hword]
    dsimp only
    rw [hstart]
    simp [hname.ne_nil, hbody.ne_nil]
    omega

/-- The route parameter of a text, if it has one, and the body after it; without a route parameter
the body is the whole text. -/
def BodyOf (cs : List Char) : Option (List Char) → List Char → Prop
  | some name, body => BeginsRoute (trim cs) name body
  | none, body => body = cs ∧ ∀ name rest, ¬ BeginsRoute (trim cs) name rest

theorem bodyOf_withoutRoute (cs : List Char) :
    BodyOf cs (withoutRoute cs).1 (withoutRoute cs).2 := by
  unfold withoutRoute
  split
  · rename_i name body h
    exact route?_eq_some_iff.mp h
  · rename_i h
    refine ⟨rfl, fun name rest hrouted => ?_⟩
    rw [route?_eq_some_iff.mpr hrouted] at h
    cases h

/-! ## Cascades -/

namespace Cascade

/-- What a text denotes where its description is not looked at. -/
theorem read?_of_read {text description : String} {c : Option Cascade}
    (h : (Cascade.read text).result = .ok (description, c)) : Cascade.read? text = .ok c := by
  simp only [Cascade.read, Outcome.result_bind, Outcome.result_lift, bind_eq_ok] at h
  obtain ⟨c', hc', -, -, h⟩ := h
  cases h
  exact hc'

/-- The parts of a body that a cascade was read from: the prompt stands before the leftmost token,
and the target with its filters and its predicate after the operator. -/
structure ReadIn (c : Cascade) (body before rest after : List Char) : Prop where
  leftmost : LeftmostToken body before rest
  operator : rest = c.operator.token.toList ++ after
  prompt : c.prompt = if trim before = [] then none else some (String.ofList (trim before))
  clear : ∀ op : CascadeOperator, ¬ op.token.toList <:+: trim before
  target : readTarget (trim after) = .ok (c.target, c.predicate, c.filters, c.rejected)

/-- A cascade was read from the text after its route parameter. -/
theorem exists_readIn {text : String} {c : Cascade} (h : Cascade.read? text = .ok (some c)) :
    ∃ body before rest after, BodyOf text.toList (c.route.map String.toList) body ∧
      c.ReadIn body before rest after ∧ operatorAt? rest = some (c.operator, after) := by
  have hbody := bodyOf_withoutRoute text.toList
  simp only [Cascade.read?] at h
  split at h
  · cases h
  · rename_i before operator after hsplit
    obtain ⟨⟨target, predicate, filters, rejected⟩, htarget, h⟩ := bind_eq_ok.mp h
    cases h
    obtain ⟨hleft, hop⟩ := leftmostToken_of_splitOperator? hsplit
    refine ⟨_, before, _, after, ?_, ⟨hleft, rfl, ?_, hleft.not_isInfix, htarget⟩, hop⟩
    · simpa [Option.map_map, Function.comp_def] using hbody
    · simp only [List.isEmpty_iff]

/-- **Operators are read longest first.**  A cascade is read from the text after its route
parameter: its operator stands at the leftmost place where any token begins, its prompt is the text
before that place and holds no token, and its target, predicate and filters are read from what
comes after the operator.  The operator is the longest token at that place, unless the text ends
there with a token of three characters, which then lacks its closing angle bracket. -/
theorem operator_longest_iff {text description : String} {c : Cascade}
    (h : (Cascade.read text).result = .ok (description, some c)) :
    ∃ body before rest after, BodyOf text.toList (c.route.map String.toList) body ∧
      c.ReadIn body before rest after ∧
      (LongestToken c.operator rest ↔ rest ≠ "<~>".toList ∧ rest ≠ "<->".toList) := by
  obtain ⟨body, before, rest, after, hbody, hread, hop⟩ := exists_readIn (read?_of_read h)
  exact ⟨body, before, rest, after, hbody, hread, longestToken_iff_of_operatorAt? hop⟩

/-- A cascade with a route parameter, and with characters of tokens in its prompt. -/
def rivals : Cascade where
  operator := .bidirectional
  target := "Firm"
  predicate := some "rival"
  route := some "slug"
  prompt := some "Rivals < of {name} -"

/-- The general statement for a text that holds the shorter token where it holds the longer one. -/
theorem operator_longest_rivals :
    (Cascade.read ":slug  Rivals < of {name} - <->Firm.rival").result =
        .ok ("Rivals < of {name} -", some rivals) ∧
      ∃ body before rest after,
        BodyOf ":slug  Rivals < of {name} - <->Firm.rival".toList (some "slug".toList) body ∧
        rivals.ReadIn body before rest after ∧
        (LongestToken .bidirectional rest ↔ rest ≠ "<~>".toList ∧ rest ≠ "<->".toList) := by
  have h : (Cascade.read ":slug  Rivals < of {name} - <->Firm.rival").result =
    .ok ("Rivals < of {name} -", some rivals) := rfl
  exact ⟨h, operator_longest_iff h⟩

/-- The token `<~>` at the end of a text is read as `<~` before an angle bracket. -/
theorem operator_shortened_similar :
    (Cascade.read "Similar to <~>").result = .ok ("Similar to", some {
        operator := .fuzzyIncoming, target := ">", prompt := some "Similar to" }) ∧
      LeftmostToken "Similar to <~>".toList "Similar to ".toList "<~>".toList ∧
      ¬ LongestToken .fuzzyIncoming "<~>".toList := by
  refine ⟨rfl, ⟨rfl, ⟨.fuzzyBidirectional, List.prefix_rfl⟩, ?_⟩, ?_⟩
  · have hnone : ∀ i < "Similar to ".toList.length, ∀ op ∈ CascadeOperator.all,
        ¬ op.token.toList <+: "Similar to <~>".toList.drop i := by decide
    rintro i hi ⟨op, hop⟩
    exact hnone i hi op op.mem_all hop
  · rintro ⟨-, hlongest⟩
    exact absurd (hlongest .fuzzyBidirectional List.prefix_rfl) (by decide)

end Cascade

end Entity
