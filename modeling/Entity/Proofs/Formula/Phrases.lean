import Entity.Proofs.Formula.Levels

/-!
# Phrases

How each kind of expression is read from its tokens, given how its parts are read.  Main statements:
one for each kind.
-/

namespace Entity.Formula

variable {ts us vs : List Token} {t u v : Tree}

/-! ## Atoms -/

theorem phrase_of_atom (hstarts : Starts 17 ts)
    (hatom : ∀ n rest, 40 * ts.length ≤ n → Follows 18 rest →
      atom n (ts ++ rest) = some (t, rest)) : Phrase 17 ts t := by
  have hlength : 0 < ts.length := hstarts.length_pos
  refine Leads.phrase ⟨hstarts, fun n rest hn hrest => ?_⟩ (.inr rfl)
  obtain ⟨n, rfl⟩ : ∃ k, n = k + 1 := ⟨n - 1, by omega⟩
  refine ⟨n, by omega, ?_⟩
  rw [if_pos rfl]
  change primary (n + 1) (ts ++ rest) = _
  rw [primary, hatom n rest (by omega) hrest]
  rfl

theorem starts_singleton {level : Nat} {t : Token} (h : level ≤ t.opens) : Starts level [t] :=
  ⟨t, [], rfl, h, fun _ _ _ => nofun⟩

/-- A token that is an expression. -/
theorem phrase_singleton {token : Token} (hopens : 17 ≤ token.opens)
    (hatom : ∀ n rest, Follows 18 rest → atom (n + 3) (token :: rest) = some (t, rest)) :
    Phrase 17 [token] t := by
  refine phrase_of_atom (starts_singleton hopens) fun n rest hn hrest => ?_
  obtain ⟨n, rfl⟩ : ∃ k, n = k + 3 := ⟨n - 3, by simp only [List.length_singleton] at hn; omega⟩
  exact hatom n rest hrest

theorem opens_of_not_keyword {w : String} (h : keywords.contains w = false) :
    (Token.word w).opens = 17 := by
  have hlookup : openingWords.lookup w = none := by
    rw [List.lookup_eq_none_iff]
    intro p hp
    have hkeyword : ∀ p ∈ openingWords, keywords.contains p.1 = true := by decide
    simp only [bne_iff_ne, ne_eq]
    rintro rfl
    rw [hkeyword p hp] at h
    cases h
  simp only [Token.opens, hlookup, h]
  rfl

theorem phrase_name {w : String} (h : keywords.contains w = false) :
    Phrase 17 [.word w] (.name (Text.normalName w)) := by
  have hne : w ≠ "None" ∧ w ≠ "True" ∧ w ≠ "False" := by
    refine ⟨?_, ?_, ?_⟩ <;>
    · rintro rfl
      revert h
      decide
  refine phrase_singleton (opens_of_not_keyword h).ge fun n rest _ => ?_
  rw [atom, if_neg hne.1, if_neg hne.2.1, if_neg hne.2.2, if_neg (by rw [h]; decide)]

theorem phrase_number (l : Literal) : Phrase 17 [.number l] (.literal l) :=
  phrase_singleton (Nat.le_refl 17) fun n rest _ => by rw [atom]

theorem phrase_ellipsis : Phrase 17 [.mark "..."] (.literal .ellipsis) :=
  phrase_singleton (by decide) fun n rest _ => by rw [atom]

theorem phrase_nothing : Phrase 17 [.word "None"] (.literal .nothing) :=
  phrase_singleton (by decide) fun n rest _ => by
    rw [atom]
    rfl

theorem phrase_bool (b : Bool) :
    Phrase 17 [.word (if b then "True" else "False")] (.literal (.bool b)) := by
  cases b <;> exact phrase_singleton (by decide) fun n rest _ => by
    rw [atom]
    rfl

/-- A text literal before what is no text literal. -/
theorem phrase_text {q : QuotedText} (h : ∀ n, joinedTexts (n + 2) [q] = some t) :
    Phrase 17 [.text q] t := by
  refine phrase_singleton (Nat.le_refl 17) fun n rest hrest => ?_
  have htexts : textsFirst (.text q :: rest) = ([q], rest) := by
    cases rest with
    | nil => rfl
    | cons u rest =>
        cases u with
        | text q' => exact absurd (hrest _ rfl) (Nat.lt_irrefl 18)
        | _ => rfl
  rw [atom]
  simp only [htexts, h, Option.map_some]

/-! ## Trailers -/

/-- A trailer after an expression: its tokens are read after the tree, and the reading goes on. -/
theorem Leads.trailer {trailer : List Token} (h : Leads 17 ts t) (first : Token)
    (hfirst : trailer.head? = some first) (hgoesOn : first.goesOn < 18) (hbinds : binds first = false)
    (htrailer : ∀ n rest, 40 * trailer.length ≤ n → ∃ m, n ≤ m + 2 * trailer.length ∧
      trailers n t (trailer ++ rest) = trailers m u rest) : Leads 17 (ts ++ trailer) u where
  starts := h.starts.append fun v hv => by
    rw [hfirst] at hv
    cases hv
    exact hbinds
  lead n rest hn hrest := by
    rw [List.length_append] at hn
    have hfollows : Follows 18 (trailer ++ rest) := by
      intro v hv
      rw [List.head?_append, hfirst] at hv
      cases hv
      exact hgoesOn
    obtain ⟨m, hm, hlead⟩ := h.lead n (trailer ++ rest) (by omega) hfollows
    obtain ⟨m', hm', hmore⟩ := htrailer m rest (by omega)
    refine ⟨m', by rw [List.length_append]; omega, ?_⟩
    rw [List.append_assoc, hlead, if_pos rfl, if_pos rfl, hmore]

theorem nameFirst?_word {w : String} (hw : keywords.contains w = false) (rest : List Token) :
    nameFirst? (.word w :: rest) = some (Text.normalName w, rest) := by
  rw [nameFirst?, if_neg (by rw [hw]; decide)]

theorem Leads.member {w : String} (h : Leads 17 ts t) (hw : keywords.contains w = false) :
    Leads 17 (ts ++ [.mark ".", .word w]) (.member t (Text.normalName w)) := by
  refine h.trailer (.mark ".") rfl (by decide) (by decide) fun n rest hn => ?_
  obtain ⟨n, rfl⟩ : ∃ k, n = k + 1 :=
    ⟨n - 1, by simp only [List.length_cons, List.length_nil] at hn; omega⟩
  refine ⟨n, by simp, ?_⟩
  rw [List.cons_append, List.singleton_append, trailers]
  simp only [nameFirst?_word hw]
  rfl

/-! ## Expressions with names -/

theorem Starts.opens_le {level : Nat} (h : Starts level ts) {rest more : List Token} {first : Token}
    (heq : ts ++ rest = first :: more) : level ≤ first.opens := by
  obtain ⟨first', more', rfl, hopens, -⟩ := h
  obtain ⟨rfl, -⟩ := List.cons.inj heq
  exact hopens

/-- The second token of what is no bound name does not bind the first. -/
theorem Starts.binds_eq_false {level : Nat} (h : Starts level ts) {rest more : List Token}
    (hrest : Follows 3 rest) {w : String} {second : Token}
    (heq : ts ++ rest = .word w :: second :: more) : binds second = false := by
  obtain ⟨first', more', rfl, -, hbinds⟩ := h
  rw [List.cons_append, List.cons.injEq] at heq
  obtain ⟨rfl, heq⟩ := heq
  cases more' with
  | cons u more' =>
      rw [List.cons_append, List.cons.injEq] at heq
      obtain ⟨rfl, -⟩ := heq
      exact hbinds w _ rfl rfl
  | nil =>
      rw [List.nil_append] at heq
      have hlt := hrest second (by rw [heq]; rfl)
      by_contra hbind
      cases second with
      | mark m =>
          simp only [binds, Bool.not_eq_false, Bool.or_eq_true, beq_iff_eq] at hbind
          rcases hbind with rfl | rfl <;> exact absurd hlt (by decide)
      | _ => exact hbind rfl

theorem Starts.not_binding {level : Nat} (h : Starts level ts) {rest : List Token}
    (hrest : Follows 3 rest) : bindingFirst? (ts ++ rest) = none := by
  cases hts : ts ++ rest with
  | nil => rfl
  | cons first more =>
      cases first with
      | word w =>
          cases hw : keywords.contains w with
          | true => simp only [bindingFirst?, nameFirst?, hw, if_true]; rfl
          | false =>
              rw [bindingFirst?, nameFirst?_word hw]
              cases more with
              | nil => rfl
              | cons second more =>
                  have hbinds := h.binds_eq_false hrest hts
                  cases second with
                  | mark m =>
                      have hm : m ≠ ":=" := by
                        rintro rfl
                        cases hbinds
                      simp [afterMark?, hm]
                  | _ => rfl
      | _ => rfl

theorem Reads.readNamed (h : Reads 3 ts t) {n : Nat} {rest : List Token}
    (hn : 40 * ts.length + 34 ≤ n) (hrest : Follows 3 rest) :
    namedExpression (n + 1) (ts ++ rest) = some (t, rest) := by
  rw [namedExpression, h.starts.not_binding hrest]
  exact h.read n rest (by omega) hrest

/-! ## Items -/

/-- An item of a display: an expression, or an unpacked sequence. -/
inductive Item : List Token → Tree → Prop where
  | plain {ts : List Token} {t : Tree} (h : Reads 3 ts t) : Item ts t
  | starred {ts : List Token} {t : Tree} (h : Reads 8 ts t) : Item (.mark "*" :: ts) (.starred t)

theorem Item.read (h : Item ts t) {n : Nat} {rest : List Token} (hn : 40 * ts.length + 36 ≤ n)
    (hrest : Follows 3 rest) : item n (ts ++ rest) = some (t, rest) := by
  obtain ⟨n, rfl⟩ : ∃ k, n = k + 2 := ⟨n - 2, by omega⟩
  cases h with
  | plain h =>
      unfold item
      split
      · rename_i heq
        exact absurd (h.starts.opens_le heq) (by decide)
      · exact h.readNamed (by omega) hrest
  | @starred ts t h =>
      rw [List.length_cons] at hn
      have hread : operation (n + 1) operatorLevels (ts ++ rest) = some (t, rest) :=
        h.read (n + 1) rest (by omega) (hrest.mono (by decide))
      rw [List.cons_append, item]
      simp only [hread]
      rfl

theorem Item.length_pos (h : Item ts t) : 0 < ts.length := by
  cases h with
  | plain h => exact h.starts.length_pos
  | starred h => simp

/-- Tokens with a comma before each. -/
def moreCommas : List (List Token) → List Token
  | [] => []
  | ts :: tss => .mark "," :: (ts ++ moreCommas tss)

/-- Tokens with commas between them. -/
def withCommas : List (List Token) → List Token
  | [] => []
  | ts :: tss => ts ++ moreCommas tss

theorem follows_moreCommas {level : Nat} (hlevel : 0 < level) (tss : List (List Token))
    {rest : List Token} (hrest : Follows level rest) : Follows level (moreCommas tss ++ rest) := by
  cases tss with
  | nil => exact hrest
  | cons ts tss => exact follows_cons (Nat.lt_of_le_of_lt (by decide) hlevel) _

/-- Tokens with a word before each. -/
def withWord (w : String) (tss : List (List Token)) : List Token := tss.flatMap (.word w :: ·)

theorem withWord_cons (w : String) (ts : List Token) (tss : List (List Token)) :
    withWord w (ts :: tss) = .word w :: (ts ++ withWord w tss) := by
  simp [withWord]

theorem follows_withWord {level : Nat} {w : String} (hw : (Token.word w).goesOn < level)
    (tss : List (List Token)) {rest : List Token} (hrest : Follows level rest) :
    Follows level (withWord w tss ++ rest) := by
  cases tss with
  | nil => exact hrest
  | cons ts tss => exact follows_cons hw _

/-- The marks that close displays. -/
def closers : List String := [")", "]", "\x7d"]

theorem follows_closer {level : Nat} (hlevel : 0 < level) {close : String} (h : close ∈ closers)
    (rest : List Token) : Follows level (.mark close :: rest) := by
  refine follows_cons (Nat.lt_of_le_of_lt ?_ hlevel) rest
  have hall : ∀ m ∈ closers, (Token.mark m).goesOn ≤ 0 := by decide
  exact hall close h

theorem Item.not_close (h : Item ts t) {close : String} (hclose : close ∈ closers)
    (rest : List Token) : afterMark? close (ts ++ rest) = none := by
  have hall : ∀ m ∈ closers, (Token.mark m).opens < 3 ∧ m ≠ "*" := by decide
  cases h with
  | plain h => exact h.starts.not_mark (hall close hclose).1 rest
  | starred h =>
      rw [List.cons_append, afterMark?, if_neg (Ne.symm (hall close hclose).2)]

/-- Items after a first one, up to a closing mark. -/
theorem moreItems_append {close : String} (hclose : close ∈ closers) {tss : List (List Token)}
    {items : List Tree} (h : List.Forall₂ Item tss items) {n : Nat} {rest : List Token}
    (hn : 40 * (moreCommas tss).length + 1 ≤ n) :
    moreItems n close (moreCommas tss ++ .mark close :: rest) = some (items, rest) := by
  have hcomma : close ≠ "," := by
    rintro rfl
    revert hclose
    decide
  induction h generalizing n with
  | nil =>
      obtain ⟨n, rfl⟩ : ∃ k, n = k + 1 := ⟨n - 1, by omega⟩
      simp [moreCommas, moreItems, afterMark?]
  | @cons ts t tss items hitem hrest ih =>
      simp only [moreCommas, List.length_cons, List.length_append] at hn
      obtain ⟨n, rfl⟩ : ∃ k, n = k + 2 := ⟨n - 2, by omega⟩
      have hfollows : Follows 3 (moreCommas tss ++ .mark close :: rest) :=
        follows_moreCommas (by decide) tss (follows_closer (by decide) hclose rest)
      have hread : item n (ts ++ (moreCommas tss ++ .mark close :: rest)) = some (t, _) :=
        hitem.read (by omega) hfollows
      have hmore : moreItems n close (moreCommas tss ++ .mark close :: rest) = some (items, rest) :=
        ih (by omega)
      have hnone := hitem.not_close hclose (moreCommas tss ++ .mark close :: rest)
      simp only [moreCommas, List.cons_append, List.append_assoc]
      rw [moreItems, afterMark?, if_neg (Ne.symm hcomma)]
      simp only [afterMark?, if_true, Option.bind_eq_bind, Option.bind_some]
      rw [Entity.Formula.items, hnone]
      simp [hread, hmore]

/-- Items up to a closing mark. -/
theorem items_append {close : String} (hclose : close ∈ closers) {tss : List (List Token)}
    {ts' : List Tree} (h : List.Forall₂ Item tss ts') {n : Nat} {rest : List Token}
    (hn : 40 * (withCommas tss).length + 38 ≤ n) :
    items n close (withCommas tss ++ .mark close :: rest) = some (ts', rest) := by
  cases h with
  | nil =>
      obtain ⟨n, rfl⟩ : ∃ k, n = k + 1 := ⟨n - 1, by omega⟩
      simp [withCommas, items, afterMark?]
  | @cons ts t tss ts' hitem hrest =>
      simp only [withCommas, List.length_append] at hn
      obtain ⟨n, rfl⟩ : ∃ k, n = k + 1 := ⟨n - 1, by omega⟩
      have hmore : moreItems n close (moreCommas tss ++ .mark close :: rest) = some (ts', rest) :=
        moreItems_append hclose hrest (by omega)
      have hfollows : Follows 3 (moreCommas tss ++ .mark close :: rest) :=
        follows_moreCommas (by decide) tss (follows_closer (by decide) hclose rest)
      have hread : item n (ts ++ (moreCommas tss ++ .mark close :: rest)) = some (t, _) :=
        hitem.read (by omega) hfollows
      rw [withCommas, List.append_assoc, items, hitem.not_close hclose]
      simp [hread, hmore]

/-! ## Round brackets -/

/-- What is read in round brackets after a first item. -/
def afterFirst? (n : Nat) (starred : Bool) (t : Tree) (rest : List Token) : Reading :=
  match rest with
  | .mark "," :: rest => (items n ")" rest).map fun r => (.tuple (t :: r.1), r.2)
  | _ =>
    if starred then none
    else if atClause rest then (clauses n rest).bind fun r =>
      (afterMark? ")" r.2).map fun rest => (.comprehension .generator t r.1, rest)
    else (afterMark? ")" rest).map fun rest => (t, rest)

theorem parenthesised_eq {n : Nat} {rest : List Token} (hread : item n ts = some (t, rest))
    (hclose : afterMark? ")" ts = none) (hyield : afterWord? "yield" ts = none) :
    parenthesised (n + 1) ts = afterFirst? n (atMark "*" ts) t rest := by
  unfold parenthesised
  split
  · cases hclose
  · cases hyield
  · rw [hread]
    simp only [Option.bind_eq_bind, Option.bind_some]
    split
    · rw [afterFirst?]
      cases items n ")" _ <;> rfl
    · rename_i hcomma
      rw [afterFirst?.eq_2 _ _ _ _ hcomma]
      split_ifs
      · rfl
      · cases clauses n rest with
        | none => rfl
        | some r => cases hr : afterMark? ")" r.2 <;> simp [hr]
      · cases afterMark? ")" rest <;> rfl

theorem Item.not_yield (h : Item ts t) (rest : List Token) :
    afterWord? "yield" (ts ++ rest) = none := by
  cases h with
  | plain h => exact h.starts.not_word (by decide) rest
  | starred h => rfl

theorem Item.parenthesised_eq (h : Item ts t) {n : Nat} {rest : List Token}
    (hn : 40 * ts.length + 36 ≤ n) (hrest : Follows 3 rest) :
    parenthesised (n + 1) (ts ++ rest) = afterFirst? n (atMark "*" (ts ++ rest)) t rest :=
  Formula.parenthesised_eq (h.read hn hrest) (h.not_close (by decide) rest) (h.not_yield rest)

/-- What is read between brackets is an atom. -/
theorem phrase_between {o c : String} (hopens : 17 ≤ (Token.mark o).opens)
    (h : ∀ n rest, 40 * ts.length + 60 ≤ n →
      atom (n + 1) (.mark o :: (ts ++ .mark c :: rest)) = some (t, rest)) :
    Phrase 17 (.mark o :: (ts ++ [.mark c])) t := by
  refine phrase_of_atom (starts_mark hopens _) fun n rest hn _ => ?_
  simp only [List.length_cons, List.length_append, List.length_nil] at hn
  obtain ⟨n, rfl⟩ : ∃ k, n = k + 1 := ⟨n - 1, by omega⟩
  rw [List.cons_append, List.append_assoc, List.singleton_append]
  exact h n rest (by omega)

theorem phrase_parenthesised (h : ∀ n rest, 40 * ts.length + 50 ≤ n →
    parenthesised n (ts ++ .mark ")" :: rest) = some (t, rest)) :
    Phrase 17 (.mark "(" :: (ts ++ [.mark ")"])) t :=
  phrase_between (by decide) fun n rest hn => by
    rw [atom]
    exact h n rest (by omega)

theorem Starts.not_starred {level : Nat} (h : Starts level ts) (hlevel : 0 < level)
    (rest : List Token) : atMark "*" (ts ++ rest) = false := by
  have hopens : (Token.mark "*").opens = 0 := by decide
  have hnone : afterMark? "*" (ts ++ rest) = none := h.not_mark (by rwa [hopens]) rest
  rw [atMark, hnone]
  rfl

/-- An expression in brackets. -/
theorem Reads.phrase_brackets (h : Reads 3 ts t) :
    Phrase 17 (.mark "(" :: (ts ++ [.mark ")"])) t := by
  refine phrase_parenthesised fun n rest hn => ?_
  obtain ⟨n, rfl⟩ : ∃ k, n = k + 1 := ⟨n - 1, by omega⟩
  have hfollows : Follows 3 (.mark ")" :: rest) := follows_cons (by decide) rest
  rw [(Item.plain h).parenthesised_eq (by omega) hfollows, h.starts.not_starred (by decide)]
  rfl

/-- Tokens with commas between them, and one after a single one. -/
def tupleTokens : List (List Token) → List Token
  | [] => []
  | ts :: tss => ts ++ .mark "," :: withCommas tss

theorem tupleOrItem_comma (items : List Tree) : tupleOrItem items true = .tuple items := by
  rcases items with - | ⟨_, - | _⟩ <;> rfl

theorem phrase_tuple {tss : List (List Token)} {items : List Tree}
    (h : List.Forall₂ Item tss items) :
    Phrase 17 (.mark "(" :: (tupleTokens tss ++ [.mark ")"])) (.tuple items) := by
  refine phrase_parenthesised fun n rest hn => ?_
  obtain ⟨n, rfl⟩ : ∃ k, n = k + 1 := ⟨n - 1, by omega⟩
  cases h with
  | nil => rfl
  | @cons ts t tss items hitem hrest =>
      simp only [tupleTokens, List.length_append, List.length_cons] at hn
      have hmore : Formula.items n ")" (withCommas tss ++ .mark ")" :: rest) = some (items, rest) :=
        items_append (by decide) hrest (by omega)
      rw [tupleTokens, List.append_assoc, List.cons_append,
        hitem.parenthesised_eq (by omega) (follows_cons (by decide) _), afterFirst?, hmore]
      rfl

end Entity.Formula
