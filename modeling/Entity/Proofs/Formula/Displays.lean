import Entity.Proofs.Formula.Phrases

/-!
# Displays and comprehensions

How lists, sets and mappings are read from the tokens of their items, and comprehensions from those
of their clauses.  Main statements: one for each kind.
-/

namespace Entity.Formula

variable {ts us : List Token} {t u : Tree}

/-! ## Targets -/

/-- A target of a comprehension: what can be bound, or the rest of a sequence. -/
inductive IsTargetOf : List Token → Tree → Prop where
  | plain {ts : List Token} {t : Tree} (h : Reads 17 ts t) (ht : t.isTarget = true) :
      IsTargetOf ts t
  | starred {ts : List Token} {t : Tree} (h : Reads 17 ts t) (ht : t.isTarget = true) :
      IsTargetOf (.mark "*" :: ts) (.starred t)

theorem IsTargetOf.read (h : IsTargetOf ts t) {n : Nat} {rest : List Token}
    (hn : 40 * ts.length + 10 ≤ n) (hrest : Follows 17 rest) :
    target n (ts ++ rest) = some (t, rest) := by
  have hplain {ts : List Token} {t : Tree} (h : Reads 17 ts t) (ht : t.isTarget = true) (n : Nat)
      (hn : 40 * ts.length + 6 ≤ n) : target (n + 1) (ts ++ rest) = some (t, rest) := by
    have hread : primary n (ts ++ rest) = some (t, rest) := h.read n rest (by omega) hrest
    unfold target
    split
    · rename_i heq
      exact absurd (h.starts.opens_le heq) (by decide)
    · simp [hread, ht]
  cases h with
  | plain h ht =>
      obtain ⟨n, rfl⟩ : ∃ k, n = k + 1 := ⟨n - 1, by omega⟩
      exact hplain h ht n (by omega)
  | @starred ts t h ht =>
      rw [List.length_cons] at hn
      obtain ⟨n, rfl⟩ : ∃ k, n = k + 2 := ⟨n - 2, by omega⟩
      rw [List.cons_append, target, h.starts.not_starred (by decide)]
      simp [hplain h ht n (by omega)]

/-- No target begins with a word that is no name. -/
theorem target_keyword {w : String} (h : keywords.contains w = true) (hw : (Token.word w).opens = 0)
    (n : Nat) (rest : List Token) : target n (.word w :: rest) = none := by
  have hne : w ≠ "None" ∧ w ≠ "True" ∧ w ≠ "False" := by
    refine ⟨?_, ?_, ?_⟩ <;>
    · rintro rfl
      revert hw
      decide
  have hatom (n : Nat) : atom n (.word w :: rest) = none := by
    cases n with
    | zero => rfl
    | succ n => rw [atom, if_neg hne.1, if_neg hne.2.1, if_neg hne.2.2, if_pos h]
  have hprimary (n : Nat) : primary n (.word w :: rest) = none := by
    cases n with
    | zero => rfl
    | succ n =>
        rw [primary, hatom]
        rfl
  cases n with
  | zero => rfl
  | succ n =>
      rw [target, hprimary]
      · rfl
      · simp

theorem moreTargets_append {tss : List (List Token)} {items : List Tree}
    (h : List.Forall₂ IsTargetOf tss items) {n : Nat} {rest : List Token}
    (hn : 40 * (moreCommas tss).length + 10 ≤ n) :
    moreTargets n (moreCommas tss ++ .word "in" :: rest) =
      some (items, !items.isEmpty, .word "in" :: rest) := by
  induction h generalizing n with
  | nil =>
      obtain ⟨n, rfl⟩ : ∃ k, n = k + 1 := ⟨n - 1, by omega⟩
      rfl
  | @cons ts t tss items htarget hrest ih =>
      simp only [moreCommas, List.length_cons, List.length_append] at hn
      obtain ⟨n, rfl⟩ : ∃ k, n = k + 1 := ⟨n - 1, by omega⟩
      have hfollows : Follows 17 (moreCommas tss ++ .word "in" :: rest) :=
        follows_moreCommas (by decide) tss (follows_cons (by decide) rest)
      have hread : target n (ts ++ (moreCommas tss ++ .word "in" :: rest)) = some (t, _) :=
        htarget.read (by omega) hfollows
      simp only [moreCommas, List.cons_append, List.append_assoc]
      rw [moreTargets, afterMark?, if_pos rfl]
      simp [hread, ih (n := n) (by omega)]

/-- The target of a clause: a single one, or some with commas. -/
inductive IsTargetsOf : List Token → Tree → Prop where
  | single {ts : List Token} {t : Tree} (h : IsTargetOf ts t) : IsTargetsOf ts t
  | many {ts : List Token} {t : Tree} {tss : List (List Token)} {items : List Tree}
      (h : List.Forall₂ IsTargetOf (ts :: tss) (t :: items)) :
      IsTargetsOf (tupleTokens (ts :: tss)) (.tuple (t :: items))

theorem IsTargetsOf.read (h : IsTargetsOf ts t) {n : Nat} {rest : List Token}
    (hn : 40 * ts.length + 20 ≤ n) :
    targets n (ts ++ .word "in" :: rest) = some (t, .word "in" :: rest) := by
  obtain ⟨n, rfl⟩ : ∃ k, n = k + 1 := ⟨n - 1, by omega⟩
  have hin : Follows 17 (.word "in" :: rest) := follows_cons (by decide) rest
  cases h with
  | single h =>
      have hmore : moreTargets n (.word "in" :: rest) = some ([], false, .word "in" :: rest) := by
        obtain ⟨n, rfl⟩ : ∃ k, n = k + 1 := ⟨n - 1, by omega⟩
        rfl
      rw [targets, h.read (by omega) hin]
      simp [hmore, tupleOrItem]
  | @many ts t tss items h =>
      obtain ⟨hfirst, hmore⟩ := List.forall₂_cons.mp h
      simp only [tupleTokens, List.length_append, List.length_cons] at hn
      have hread : target n (ts ++ (.mark "," :: (withCommas tss ++ .word "in" :: rest))) =
          some (t, _) := hfirst.read (by omega) (follows_cons (by decide) _)
      have hmore : moreTargets n (.mark "," :: (withCommas tss ++ .word "in" :: rest)) =
          some (items, true, .word "in" :: rest) := by
        cases hmore with
        | nil =>
            obtain ⟨n, rfl⟩ : ∃ k, n = k + 1 := ⟨n - 1, by omega⟩
            rw [moreTargets, afterMark?, if_pos rfl, withCommas, List.nil_append]
            simp [target_keyword (w := "in") (by decide) (by decide)]
        | @cons us u tss items htarget hrest =>
            have hall : moreTargets n (moreCommas (us :: tss) ++ .word "in" :: rest) =
                some (u :: items, true, .word "in" :: rest) := by
              refine moreTargets_append (.cons htarget hrest) ?_
              simp only [moreCommas, withCommas, List.length_cons, List.length_append] at hn ⊢
              omega
            simpa [moreCommas, withCommas] using hall
      rw [tupleTokens, List.append_assoc, List.cons_append, targets, hread]
      simp [hmore, tupleOrItem_comma]

/-! ## Clauses -/

theorem conditions_append {tss : List (List Token)} {tests : List Tree}
    (h : List.Forall₂ (Reads 4) tss tests) {n : Nat} {rest : List Token}
    (hn : 40 * (withWord "if" tss).length + 1 ≤ n) (hrest : Follows 3 rest) :
    conditions n (withWord "if" tss ++ rest) = some (tests, rest) := by
  induction h generalizing n with
  | nil =>
      obtain ⟨n, rfl⟩ : ∃ k, n = k + 1 := ⟨n - 1, by omega⟩
      have hnone : afterWord? "if" rest = none := hrest.not_word (by decide)
      simp [withWord, conditions, hnone]
  | @cons ts t tss tests hreads _ ih =>
      rw [withWord_cons] at hn ⊢
      simp only [List.length_cons, List.length_append] at hn
      obtain ⟨n, rfl⟩ : ∃ k, n = k + 1 := ⟨n - 1, by omega⟩
      have hread : disjunction n (ts ++ (withWord "if" tss ++ rest)) = some (t, _) :=
        hreads.read n _ (by omega) (follows_withWord (by decide) tss (hrest.mono (by decide)))
      rw [List.cons_append, List.append_assoc, conditions, afterWord?, if_pos rfl]
      simp [hread, ih (n := n) (by omega)]

/-- The word before a clause over what is awaited. -/
def asyncTokens (isAsync : Bool) : List Token := if isAsync then [.word "async"] else []

/-- A clause of a comprehension. -/
inductive IsClause : List Token → Tree → Prop where
  | mk (isAsync : Bool) {ts us : List Token} {t u : Tree} {vss : List (List Token)}
      {tests : List Tree} (htarget : IsTargetsOf ts t) (hsource : Reads 4 us u)
      (htests : List.Forall₂ (Reads 4) vss tests) :
      IsClause (asyncTokens isAsync ++ .word "for" ::
          (ts ++ .word "in" :: (us ++ withWord "if" vss)))
        (.clause isAsync t u tests)

theorem IsClause.begins (h : IsClause ts t) (rest : List Token) :
    (∃ w more, ts ++ rest = .word w :: more ∧ (Token.word w).goesOn = 0) ∧
      atClause (ts ++ rest) = true := by
  cases h with
  | mk isAsync htarget hsource htests =>
      cases isAsync
      · exact ⟨⟨"for", _, rfl, by decide⟩, rfl⟩
      · exact ⟨⟨"async", _, rfl, by decide⟩, rfl⟩

theorem IsClause.follows (h : IsClause ts t) (rest : List Token) {level : Nat}
    (hlevel : 0 < level) : Follows level (ts ++ rest) := by
  obtain ⟨⟨w, more, heq, hw⟩, -⟩ := h.begins rest
  rw [heq]
  exact follows_cons (by omega) more

theorem IsClause.length_pos (h : IsClause ts t) : 0 < ts.length := by
  cases h with
  | mk isAsync _ _ _ => cases isAsync <;> simp [asyncTokens]

/-- What may follow the clauses of a comprehension. -/
structure EndsClauses (rest : List Token) : Prop where
  follows : Follows 3 rest
  atClause : atClause rest = false

theorem clauses_append {tss : List (List Token)} {cs : List Tree}
    (h : List.Forall₂ IsClause tss cs) (hne : cs ≠ []) {n : Nat} {rest : List Token}
    (hn : 40 * tss.flatten.length + 10 ≤ n) (hrest : EndsClauses rest) :
    clauses n (tss.flatten ++ rest) = some (cs, rest) := by
  induction h generalizing n with
  | nil => exact absurd rfl hne
  | @cons ts t tss cs hclause hclauses ih =>
      rw [List.flatten_cons, List.length_append] at hn
      rw [List.flatten_cons, List.append_assoc]
      have hfollows : Follows 3 (tss.flatten ++ rest) := by
        cases hclauses with
        | nil => exact hrest.follows
        | cons h _ =>
            rw [List.flatten_cons, List.append_assoc]
            exact h.follows _ (by decide)
      have hmore : atClause (tss.flatten ++ rest) = false ∧ cs = [] ∧ tss.flatten ++ rest = rest ∨
          atClause (tss.flatten ++ rest) = true ∧
            clauses (n - 1) (tss.flatten ++ rest) = some (cs, rest) := by
        cases hclauses with
        | nil => exact .inl ⟨hrest.atClause, rfl, rfl⟩
        | @cons us u tss cs h hs =>
            have hlength : 0 < ts.length := hclause.length_pos
            have hmore := ih (List.cons_ne_nil u cs) (n := n - 1) (by omega)
            refine .inr ⟨?_, hmore⟩
            rw [List.flatten_cons, List.append_assoc]
            exact (h.begins _).2
      generalize tss.flatten ++ rest = after at hfollows hmore
      cases hclause with
      | @mk isAsync us vs t u vss tests htarget hsource htests =>
      obtain ⟨n, rfl⟩ : ∃ k, n = k + 1 := ⟨n - 1, by omega⟩
      simp only [List.length_append, List.length_cons] at hn
      have htargets : targets n (us ++ .word "in" :: (vs ++ (withWord "if" vss ++ after))) =
          some (t, _) := htarget.read (by omega)
      have hread : disjunction n (vs ++ (withWord "if" vss ++ after)) = some (u, _) :=
        hsource.read n _ (by omega) (follows_withWord (by decide) vss (hfollows.mono (by decide)))
      have htests : conditions n (withWord "if" vss ++ after) = some (tests, after) :=
        conditions_append htests (by omega) hfollows
      cases isAsync <;>
      · simp only [asyncTokens]
        rw [clauses]
        rcases hmore with ⟨hat, rfl, rfl⟩ | ⟨hat, hmore⟩
        · simp [atWord, afterWord?, htargets, hread, htests, hat]
        · rw [Nat.add_sub_cancel] at hmore
          simp [atWord, afterWord?, htargets, hread, htests, hat, hmore]

theorem endsClauses_closer {close : String} (h : close ∈ closers) (rest : List Token) :
    EndsClauses (.mark close :: rest) := ⟨follows_closer (by decide) h rest, rfl⟩

/-! ## Comprehensions -/

section Comprehension

variable {tss : List (List Token)} {cs : List Tree}

theorem clauses_begin (h : List.Forall₂ IsClause tss cs) (hne : cs ≠ []) (rest : List Token) :
    (∃ w more, tss.flatten ++ rest = .word w :: more ∧ (Token.word w).goesOn = 0) ∧
      atClause (tss.flatten ++ rest) = true := by
  cases h with
  | nil => exact absurd rfl hne
  | cons h _ =>
      rw [List.flatten_cons, List.append_assoc]
      exact h.begins _

theorem Reads.phrase_generator (h : Reads 3 ts t) (hcs : List.Forall₂ IsClause tss cs)
    (hne : cs ≠ []) : Phrase 17 (.mark "(" :: (ts ++ tss.flatten ++ [.mark ")"]))
      (.comprehension .generator t cs) := by
  refine phrase_parenthesised fun n rest hn => ?_
  rw [List.length_append] at hn
  obtain ⟨n, rfl⟩ : ∃ k, n = k + 1 := ⟨n - 1, by omega⟩
  obtain ⟨⟨w, more, hwords, hw⟩, hat⟩ := clauses_begin hcs hne (.mark ")" :: rest)
  have hread : clauses n (tss.flatten ++ .mark ")" :: rest) = some (cs, .mark ")" :: rest) :=
    clauses_append hcs hne (by omega) (endsClauses_closer (by decide) rest)
  have hfollows : Follows 3 (tss.flatten ++ .mark ")" :: rest) := by
    rw [hwords]
    exact follows_cons (by omega) more
  rw [List.append_assoc, (Item.plain h).parenthesised_eq (by omega) hfollows,
    h.starts.not_starred (by decide)]
  rw [hwords] at hread hat ⊢
  simp [afterFirst?, hat, hread, afterMark?]

end Comprehension

/-! ## Square brackets -/

theorem bracketed_eq {n : Nat} {rest : List Token} (hread : item n ts = some (t, rest))
    (hclose : afterMark? "]" ts = none) : bracketed (n + 1) ts =
      if atClause rest then
        if atMark "*" ts then none
        else (clauses n rest).bind fun r =>
          (afterMark? "]" r.2).map fun rest => (.comprehension .list t r.1, rest)
      else (moreItems n "]" rest).map fun r => (.list (t :: r.1), r.2) := by
  unfold bracketed
  split
  · cases hclose
  · rw [hread]
    simp only [Option.bind_eq_bind, Option.bind_some]
    split_ifs
    · rfl
    · cases clauses n rest with
      | none => rfl
      | some r => cases hr : afterMark? "]" r.2 <;> simp [hr]
    · cases moreItems n "]" rest <;> rfl

theorem phrase_bracketed (h : ∀ n rest, 40 * ts.length + 50 ≤ n →
    bracketed n (ts ++ .mark "]" :: rest) = some (t, rest)) :
    Phrase 17 (.mark "[" :: (ts ++ [.mark "]"])) t :=
  phrase_between (by decide) fun n rest hn => by
    rw [atom]
    exact h n rest (by omega)

/-- Items after a first one are no clauses. -/
theorem atClause_moreCommas (tss : List (List Token)) {rest : List Token}
    (h : atClause rest = false) : atClause (moreCommas tss ++ rest) = false := by
  cases tss with
  | nil => exact h
  | cons ts tss => rfl

theorem phrase_list {tss : List (List Token)} {items : List Tree}
    (h : List.Forall₂ Item tss items) :
    Phrase 17 (.mark "[" :: (withCommas tss ++ [.mark "]"])) (.list items) := by
  refine phrase_bracketed fun n rest hn => ?_
  obtain ⟨n, rfl⟩ : ∃ k, n = k + 1 := ⟨n - 1, by omega⟩
  cases h with
  | nil => rfl
  | @cons ts t tss items hitem hrest =>
      simp only [withCommas, List.length_append] at hn
      have hmore : moreItems n "]" (moreCommas tss ++ .mark "]" :: rest) = some (items, rest) :=
        moreItems_append (by decide) hrest (by omega)
      have hread : item n (ts ++ (moreCommas tss ++ .mark "]" :: rest)) = some (t, _) :=
        hitem.read (by omega) (follows_moreCommas (by decide) tss (follows_cons (by decide) rest))
      rw [withCommas, List.append_assoc, bracketed_eq hread (hitem.not_close (by decide) _),
        atClause_moreCommas tss rfl, hmore]
      rfl

theorem Reads.phrase_listComprehension {tss : List (List Token)} {cs : List Tree}
    (h : Reads 3 ts t) (hcs : List.Forall₂ IsClause tss cs) (hne : cs ≠ []) :
    Phrase 17 (.mark "[" :: (ts ++ tss.flatten ++ [.mark "]"])) (.comprehension .list t cs) := by
  refine phrase_bracketed fun n rest hn => ?_
  rw [List.length_append] at hn
  obtain ⟨n, rfl⟩ : ∃ k, n = k + 1 := ⟨n - 1, by omega⟩
  obtain ⟨⟨w, more, hwords, hw⟩, hat⟩ := clauses_begin hcs hne (.mark "]" :: rest)
  have hclauses : clauses n (tss.flatten ++ .mark "]" :: rest) = some (cs, .mark "]" :: rest) :=
    clauses_append hcs hne (by omega) (endsClauses_closer (by decide) rest)
  have hfollows : Follows 3 (tss.flatten ++ .mark "]" :: rest) := by
    rw [hwords]
    exact follows_cons (by omega) more
  have hread := (Item.plain h).read (n := n) (by omega) hfollows
  rw [List.append_assoc, bracketed_eq hread ((Item.plain h).not_close (by decide) _),
    h.starts.not_starred (by decide), hat, hclauses]
  simp [afterMark?]

/-! ## Braces -/

theorem phrase_braced (h : ∀ n rest, 40 * ts.length + 50 ≤ n →
    braced n (ts ++ .mark "\x7d" :: rest) = some (t, rest)) :
    Phrase 17 (.mark "\x7b" :: (ts ++ [.mark "\x7d"])) t :=
  phrase_between (by decide) fun n rest hn => by
    rw [atom]
    exact h n rest (by omega)

/-- What is read between braces after a first item without a colon. -/
theorem braced_item {n : Nat} {rest : List Token} (hread : item n ts = some (t, rest))
    (hclose : afterMark? "\x7d" ts = none) (hstars : afterMark? "**" ts = none)
    (hcolon : afterMark? ":" rest = none) : braced (n + 1) ts =
      if atClause rest then
        if atMark "*" ts then none
        else (clauses n rest).bind fun r =>
          (afterMark? "\x7d" r.2).map fun rest => (.comprehension .set t r.1, rest)
      else (moreItems n "\x7d" rest).map fun r => (.set (t :: r.1), r.2) := by
  unfold braced
  split
  · cases hclose
  · cases hstars
  · rw [hread]
    simp only [Option.bind_eq_bind, Option.bind_some]
    split
    · cases hcolon
    · split_ifs
      · rfl
      · cases clauses n rest with
        | none => rfl
        | some r => cases hr : afterMark? "\x7d" r.2 <;> simp [hr]
      · cases moreItems n "\x7d" rest <;> rfl

/-- What is read between braces after a first key. -/
theorem braced_key {n : Nat} {rest : List Token} (hread : item n ts = some (t, .mark ":" :: rest))
    (hclose : afterMark? "\x7d" ts = none) (hstars : afterMark? "**" ts = none)
    (hstar : atMark "*" ts = false) (hbinding : bindingFirst? ts = none) : braced (n + 1) ts =
      (expression n rest).bind fun v =>
        if atClause v.2 then (clauses n v.2).bind fun r =>
          (afterMark? "\x7d" r.2).map fun rest => (.comprehension .dict (.entry t v.1) r.1, rest)
        else (moreEntries n v.2).map fun r => (.dict (.entry t v.1 :: r.1), r.2) := by
  unfold braced
  split
  · cases hclose
  · cases hstars
  · rw [hread]
    simp only [Option.bind_eq_bind, Option.bind_some, hstar, hbinding]
    refine Option.bind_congr fun v _ => ?_
    split_ifs
    · cases clauses n v.2 with
      | none => rfl
      | some r => cases hr : afterMark? "\x7d" r.2 <;> simp [hr]
    · cases moreEntries n v.2 <;> rfl

theorem Item.not_stars (h : Item ts t) (rest : List Token) : afterMark? "**" (ts ++ rest) = none := by
  cases h with
  | plain h =>
      have hopens : (Token.mark "**").opens = 0 := by decide
      exact h.starts.not_mark (by rw [hopens]; decide) rest
  | starred h => rfl

theorem phrase_set {tss : List (List Token)} {t : Tree} {items : List Tree}
    (h : List.Forall₂ Item (ts :: tss) (t :: items)) :
    Phrase 17 (.mark "\x7b" :: (withCommas (ts :: tss) ++ [.mark "\x7d"])) (.set (t :: items)) := by
  refine phrase_braced fun n rest hn => ?_
  obtain ⟨n, rfl⟩ : ∃ k, n = k + 1 := ⟨n - 1, by omega⟩
  obtain ⟨hitem, hrest⟩ := List.forall₂_cons.mp h
  simp only [withCommas, List.length_append] at hn
  have hmore : moreItems n "\x7d" (moreCommas tss ++ .mark "\x7d" :: rest) = some (items, rest) :=
    moreItems_append (by decide) hrest (by omega)
  have hread : item n (ts ++ (moreCommas tss ++ .mark "\x7d" :: rest)) = some (t, _) :=
    hitem.read (by omega) (follows_moreCommas (by decide) tss (follows_cons (by decide) rest))
  have hcolon : afterMark? ":" (moreCommas tss ++ .mark "\x7d" :: rest) = none := by
    cases tss <;> rfl
  rw [withCommas, List.append_assoc, braced_item hread (hitem.not_close (by decide) _)
    (hitem.not_stars _) hcolon, atClause_moreCommas tss rfl, hmore]
  rfl

theorem Reads.phrase_setComprehension {tss : List (List Token)} {cs : List Tree}
    (h : Reads 3 ts t) (hcs : List.Forall₂ IsClause tss cs) (hne : cs ≠ []) :
    Phrase 17 (.mark "\x7b" :: (ts ++ tss.flatten ++ [.mark "\x7d"]))
      (.comprehension .set t cs) := by
  refine phrase_braced fun n rest hn => ?_
  rw [List.length_append] at hn
  obtain ⟨n, rfl⟩ : ∃ k, n = k + 1 := ⟨n - 1, by omega⟩
  obtain ⟨⟨w, more, hwords, hw⟩, hat⟩ := clauses_begin hcs hne (.mark "\x7d" :: rest)
  have hclauses : clauses n (tss.flatten ++ .mark "\x7d" :: rest) =
      some (cs, .mark "\x7d" :: rest) :=
    clauses_append hcs hne (by omega) (endsClauses_closer (by decide) rest)
  have hfollows : Follows 3 (tss.flatten ++ .mark "\x7d" :: rest) := by
    rw [hwords]
    exact follows_cons (by omega) more
  have hread := (Item.plain h).read (n := n) (by omega) hfollows
  have hcolon : afterMark? ":" (tss.flatten ++ .mark "\x7d" :: rest) = none := by
    rw [hwords]
    rfl
  rw [List.append_assoc, braced_item hread ((Item.plain h).not_close (by decide) _)
    ((Item.plain h).not_stars _) hcolon, h.starts.not_starred (by decide), hat, hclauses]
  simp [afterMark?]

/-- An entry of a mapping: a key with a value, or an unpacked mapping. -/
inductive IsEntry : List Token → Tree → Prop where
  | pair {ts us : List Token} {t u : Tree} (hkey : Reads 3 ts t) (hvalue : Reads 3 us u) :
      IsEntry (ts ++ .mark ":" :: us) (.entry t u)
  | unpacked {ts : List Token} {t : Tree} (h : Reads 8 ts t) :
      IsEntry (.mark "**" :: ts) (.unpacked t)

/-- An entry and what follows it. -/
theorem IsEntry.entries_eq (h : IsEntry ts t) {n : Nat} {rest : List Token}
    (hn : 40 * ts.length + 40 ≤ n) (hrest : Follows 3 rest) :
    entries (n + 1) (ts ++ rest) = (moreEntries n rest).map fun r => (t :: r.1, r.2) := by
  cases h with
  | @pair ts us t u hkey hvalue =>
      rw [List.length_append, List.length_cons] at hn
      have hkey' : expression n (ts ++ .mark ":" :: (us ++ rest)) = some (t, _) :=
        hkey.read n _ (by omega) (follows_cons (by decide) _)
      have hvalue' : expression n (us ++ rest) = some (u, rest) :=
        hvalue.read n rest (by omega) hrest
      rw [List.append_assoc, List.cons_append]
      unfold entries
      split
      · rename_i heq
        exact absurd (hkey.starts.opens_le heq) (by decide)
      · rename_i heq
        exact absurd (hkey.starts.opens_le heq) (by decide)
      · simp only [hkey', afterMark?, Option.bind_eq_bind, Option.bind_some, if_true, hvalue']
        cases moreEntries n rest <;> rfl
  | @unpacked ts t h =>
      rw [List.length_cons] at hn
      have hread : operation n operatorLevels (ts ++ rest) = some (t, rest) :=
        h.read n rest (by omega) (hrest.mono (by decide))
      rw [List.cons_append, entries, hread]
      simp only [Option.bind_eq_bind, Option.bind_some]
      cases moreEntries n rest <;> rfl

theorem moreEntries_append {tss : List (List Token)} {es : List Tree}
    (h : List.Forall₂ IsEntry tss es) {n : Nat} {rest : List Token}
    (hn : 40 * (moreCommas tss).length + 10 ≤ n) :
    moreEntries n (moreCommas tss ++ .mark "\x7d" :: rest) = some (es, rest) := by
  induction h generalizing n with
  | nil =>
      obtain ⟨n, rfl⟩ : ∃ k, n = k + 1 := ⟨n - 1, by omega⟩
      rfl
  | @cons ts t tss es hentry hrest ih =>
      simp only [moreCommas, List.length_cons, List.length_append] at hn
      obtain ⟨n, rfl⟩ : ∃ k, n = k + 2 := ⟨n - 2, by omega⟩
      have hfollows : Follows 3 (moreCommas tss ++ .mark "\x7d" :: rest) :=
        follows_moreCommas (by decide) tss (follows_cons (by decide) rest)
      simp only [moreCommas, List.cons_append, List.append_assoc]
      rw [moreEntries, hentry.entries_eq (by omega) hfollows, ih (by omega)]
      rfl

theorem phrase_dict {tss : List (List Token)} {es : List Tree} (h : List.Forall₂ IsEntry tss es) :
    Phrase 17 (.mark "\x7b" :: (withCommas tss ++ [.mark "\x7d"])) (.dict es) := by
  refine phrase_braced fun n rest hn => ?_
  cases h with
  | nil =>
      obtain ⟨n, rfl⟩ : ∃ k, n = k + 1 := ⟨n - 1, by omega⟩
      rfl
  | @cons ts t tss es hentry hrest =>
      simp only [withCommas, List.length_append] at hn
      obtain ⟨n, rfl⟩ : ∃ k, n = k + 2 := ⟨n - 2, by omega⟩
      have hfollows : Follows 3 (moreCommas tss ++ .mark "\x7d" :: rest) :=
        follows_moreCommas (by decide) tss (follows_cons (by decide) rest)
      have hmore (m : Nat) (hm : 40 * (moreCommas tss).length + 10 ≤ m) :
          moreEntries m (moreCommas tss ++ .mark "\x7d" :: rest) = some (es, rest) :=
        moreEntries_append hrest hm
      rw [withCommas, List.append_assoc]
      cases hentry with
      | @pair ts us t u hkey hvalue =>
          rw [List.length_append, List.length_cons] at hn
          rw [List.append_assoc, List.cons_append]
          have hread := (Item.plain hkey).read (n := n + 1) (by omega)
            (follows_cons (t := .mark ":") (by decide)
              (us ++ (moreCommas tss ++ .mark "\x7d" :: rest)))
          have hread' : expression (n + 1) (us ++ (moreCommas tss ++ .mark "\x7d" :: rest)) =
              some (u, _) := hvalue.read (n + 1) _ (by omega) hfollows
          rw [braced_key hread ((Item.plain hkey).not_close (by decide) _)
            ((Item.plain hkey).not_stars _) (hkey.starts.not_starred (by decide) _)
            (hkey.starts.not_binding (follows_cons (by decide) _)), hread', Option.bind_some,
            atClause_moreCommas tss rfl, hmore (n + 1) (by omega)]
          rfl
      | @unpacked ts t h =>
          have hentries := (IsEntry.unpacked h).entries_eq (n := n) (by
            simp only [List.length_cons] at hn ⊢
            omega) hfollows
          rw [List.cons_append] at hentries ⊢
          rw [braced, hentries, hmore n (by omega)]
          rfl

theorem Reads.phrase_dictComprehension {tss : List (List Token)} {cs : List Tree}
    (hkey : Reads 3 ts t) (hvalue : Reads 3 us u) (hcs : List.Forall₂ IsClause tss cs)
    (hne : cs ≠ []) :
    Phrase 17 (.mark "\x7b" :: (ts ++ .mark ":" :: us ++ tss.flatten ++ [.mark "\x7d"]))
      (.comprehension .dict (.entry t u) cs) := by
  refine phrase_braced fun n rest hn => ?_
  simp only [List.length_append, List.length_cons] at hn
  obtain ⟨n, rfl⟩ : ∃ k, n = k + 1 := ⟨n - 1, by omega⟩
  obtain ⟨⟨w, more, hwords, hw⟩, hat⟩ := clauses_begin hcs hne (.mark "\x7d" :: rest)
  have hclauses : clauses n (tss.flatten ++ .mark "\x7d" :: rest) =
      some (cs, .mark "\x7d" :: rest) :=
    clauses_append hcs hne (by omega) (endsClauses_closer (by decide) rest)
  have hfollows : Follows 3 (tss.flatten ++ .mark "\x7d" :: rest) := by
    rw [hwords]
    exact follows_cons (by omega) more
  have hread := (Item.plain hkey).read (n := n) (by omega)
    (follows_cons (t := .mark ":") (by decide) (us ++ (tss.flatten ++ .mark "\x7d" :: rest)))
  have hread' : expression n (us ++ (tss.flatten ++ .mark "\x7d" :: rest)) = some (u, _) :=
    hvalue.read n _ (by omega) hfollows
  rw [List.append_assoc, List.append_assoc, List.cons_append, braced_key hread
    ((Item.plain hkey).not_close (by decide) _) ((Item.plain hkey).not_stars _)
    (hkey.starts.not_starred (by decide) _) (hkey.starts.not_binding (follows_cons (by decide) _)),
    hread', Option.bind_some, hat, hclauses]
  simp [afterMark?]

end Entity.Formula
