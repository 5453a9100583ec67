import Entity.Proofs.Formula.Phrases

/-!
# Operations

How operators, comparisons and conditionals are read from their operands, and functions from their
parameters and bodies.  Main statements: one for each kind, at the level of its operator.
-/

namespace Entity.Formula

variable {ts us vs : List Token} {t u v : Tree}

/-! ## Prefix operators -/

theorem Reads.phrase_not (h : Reads 6 ts t) : Phrase 6 (.word "not" :: ts) (.unary .not t) := by
  refine phrase_of_reads ⟨h.starts.cons_word (by decide) (by decide), fun n rest hn hrest => ?_⟩
    (by decide) (by decide)
  rw [List.length_cons] at hn
  obtain ⟨n, rfl⟩ : ∃ k, n = k + 1 := ⟨n - 1, by omega⟩
  have hread : inversion n (ts ++ rest) = some (t, rest) := h.read n rest (by omega) hrest
  change inversion (n + 1) (.word "not" :: (ts ++ rest)) = _
  rw [inversion, afterWord?, if_pos rfl]
  simp [hread]

/-- The marks of signs. -/
def signs : List (String × UnaryOperator) := [("~", .invert), ("+", .plus), ("-", .minus)]

theorem Reads.phrase_sign {m : String} {op : UnaryOperator} (hm : (m, op) ∈ signs)
    (h : Reads 14 ts t) : Phrase 14 (.mark m :: ts) (.unary op t) := by
  have hall : ∀ p ∈ signs, 14 ≤ (Token.mark p.1).opens ∧ prefixOperator? p.1 = some p.2 := by decide
  obtain ⟨hopens, hunary⟩ := hall _ hm
  refine phrase_of_reads ⟨starts_mark hopens ts, fun n rest hn hrest => ?_⟩ (by decide) (by decide)
  rw [List.length_cons] at hn
  obtain ⟨n, rfl⟩ : ∃ k, n = k + 1 := ⟨n - 1, by omega⟩
  have hread : factor n (ts ++ rest) = some (t, rest) := h.read n rest (by omega) hrest
  change factor (n + 1) (.mark m :: (ts ++ rest)) = _
  rw [factor]
  simp [hunary, hread]

theorem Reads.phrase_await (h : Reads 17 ts t) : Phrase 16 (.word "await" :: ts) (.await t) := by
  refine phrase_of_reads ⟨h.starts.cons_word (by decide) (by decide), fun n rest hn hrest => ?_⟩
    (by decide) (by decide)
  rw [List.length_cons] at hn
  have hread : primary n (ts ++ rest) = some (t, rest) :=
    h.read n rest (by omega) (hrest.mono (by decide))
  change base n (.word "await" :: (ts ++ rest)) = _
  rw [base, afterWord?, if_pos rfl]
  simp [hread]

/-! ## Operators between two operands -/

theorem Leads.binary {level : Nat} (hlevel : isOperatorLevel level = true) {m : String}
    {op : BinaryOperator} (hop : (operatorsAt level).lookup m = some op) (h : Leads level ts t)
    (h' : Reads (level + 1) us u) : Phrase level (ts ++ .mark m :: us) (.binary op t u) := by
  have hm : (Token.mark m).goesOn = level :=
    goesOn_of_mem_operatorsAt hlevel _ (mem_of_lookup hop)
  have hne : level ≠ 17 := by
    rintro rfl
    cases hlevel
  have hbounds : 8 ≤ level ∧ level ≤ 13 := by simpa [isOperatorLevel] using hlevel
  have hbinds : binds (.mark m) = false := by
    by_contra hbinds
    simp only [binds, Bool.not_eq_false, Bool.or_eq_true, beq_iff_eq] at hbinds
    have hlast : ∀ m ∈ [":=", "="], (Token.mark m).goesOn = 17 := by decide
    exact hne (hm.symm.trans (hlast m (by simpa using hbinds)))
  refine Leads.phrase ⟨h.starts.append ?_, fun n rest hn hrest => ?_⟩ (.inl hlevel)
  · rintro _ ⟨⟩
    exact hbinds
  rw [List.length_append, List.length_cons] at hn
  have hfollows : Follows (level + 1) (.mark m :: (us ++ rest)) :=
    follows_cons (by omega) (us ++ rest)
  obtain ⟨k, hk, hlead⟩ := h.lead n _ (by omega) hfollows
  obtain ⟨k, rfl⟩ : ∃ j, k = j + 2 := ⟨k - 2, by omega⟩
  refine ⟨k + 1, by rw [List.length_append, List.length_cons]; omega, ?_⟩
  have hoperator : operator? (operatorsAt level) (.mark m :: (us ++ rest)) =
      some (op, us ++ rest) := by simp [operator?, hop]
  rw [List.append_assoc, List.cons_append, hlead, if_neg hne, if_neg hne, moreOperands, hoperator]
  simp only [h'.operand hlevel (show 40 * us.length + 40 ≤ k + 2 * (level + 1) by omega) hrest,
    Option.bind_eq_bind, Option.bind_some]

theorem Reads.phrase_power (h : Reads 16 ts t) (h' : Reads 15 us u) :
    Phrase 15 (ts ++ .mark "**" :: us) (.binary .power t u) := by
  refine phrase_of_reads ⟨(h.starts.mono (by decide)).append ?_, fun n rest hn hrest => ?_⟩
    (by decide) (by decide)
  · rintro _ ⟨⟩
    rfl
  rw [List.length_append, List.length_cons] at hn
  obtain ⟨n, rfl⟩ : ∃ k, n = k + 2 := ⟨n - 2, by omega⟩
  have hbase : base (n + 1) (ts ++ .mark "**" :: (us ++ rest)) = some (t, _) :=
    h.read (n + 1) _ (by omega) (follows_cons (by decide) (us ++ rest))
  have hread : factor (n + 1) (us ++ rest) = some (u, rest) := h'.factor_eq (by omega) hrest
  rw [List.append_assoc, List.cons_append]
  change power (n + 2) _ = _
  rw [power_of_base hbase, afterMark?, if_pos rfl]
  simp [hread]

/-! ## Operators that stop early -/

/-- The operands after a first one. -/
def moreOf : BooleanOperator → Nat → List Token → Option (List Tree × List Token)
  | .or => moreOr
  | .and => moreAnd

theorem moreOf_succ (op : BooleanOperator) (n : Nat) (ts : List Token) :
    moreOf op (n + 1) ts = match afterWord? op.word ts with
      | none => some ([], ts)
      | some ts => (readAt (op.level + 1) n ts).bind fun r =>
          (moreOf op n r.2).map fun more => (r.1 :: more.1, more.2) := by
  cases op <;>
  · simp only [moreOf, moreOr, moreAnd, BooleanOperator.word, BooleanOperator.level, readAt]
    split <;> simp [Option.map_eq_bind, *]

theorem readAt_boolean (op : BooleanOperator) (n : Nat) (ts : List Token) :
    readAt op.level (n + 1) ts = (readAt (op.level + 1) n ts).bind fun r =>
      (moreOf op n r.2).map fun more => (boolean op r.1 more.1, more.2) := by
  cases op <;>
  simp [moreOf, BooleanOperator.level, readAt, disjunction, conjunction, Option.map_eq_bind]

theorem moreOf_append (op : BooleanOperator) {tss : List (List Token)} {operands : List Tree}
    (h : List.Forall₂ (Reads (op.level + 1)) tss operands) {n : Nat} {rest : List Token}
    (hn : 40 * (withWord op.word tss).length + 1 ≤ n) (hrest : Follows op.level rest) :
    moreOf op n (withWord op.word tss ++ rest) = some (operands, rest) := by
  have hword : (Token.word op.word).goesOn = op.level := by cases op <;> decide
  induction h generalizing n with
  | nil =>
      obtain ⟨n, rfl⟩ : ∃ k, n = k + 1 := ⟨n - 1, by omega⟩
      have hnone : afterWord? op.word rest = none := hrest.not_word hword.ge
      simp [withWord, moreOf_succ, hnone]
  | @cons ts t tss operands hreads _ ih =>
      rw [withWord_cons] at hn ⊢
      simp only [List.length_cons, List.length_append] at hn
      obtain ⟨n, rfl⟩ : ∃ k, n = k + 1 := ⟨n - 1, by omega⟩
      have hread : readAt (op.level + 1) n (ts ++ (withWord op.word tss ++ rest)) = some (t, _) :=
        hreads.read n _ (by omega)
          (follows_withWord (by omega) tss (hrest.mono (Nat.le_succ op.level)))
      rw [List.cons_append, List.append_assoc, moreOf_succ, afterWord?, if_pos rfl]
      simp [hread, ih (n := n) (by omega)]

theorem phrase_boolean (op : BooleanOperator) {tss : List (List Token)} {operands : List Tree}
    (h : Reads (op.level + 1) ts t) (hmore : List.Forall₂ (Reads (op.level + 1)) tss operands)
    (hne : operands ≠ []) :
    Phrase op.level (ts ++ withWord op.word tss) (.boolean op (t :: operands)) := by
  have hlevel : ∀ level : Nat, op.level = level → level = 4 ∨ level = 5 := by
    rintro _ rfl
    cases op <;> decide
  have hlevel := hlevel op.level rfl
  have hword : (Token.word op.word).goesOn = op.level := by cases op <;> decide
  have hstarts : Starts op.level (ts ++ withWord op.word tss) := by
    refine (h.starts.mono (Nat.le_succ _)).append ?_
    intro u hu
    cases tss with
    | nil => cases hu
    | cons us tss =>
        cases hu
        rfl
  refine phrase_of_reads ⟨hstarts, fun n rest hn hrest => ?_⟩ (by cases op <;> decide)
    (by cases op <;> decide)
  rw [List.length_append] at hn
  obtain ⟨n, rfl⟩ : ∃ k, n = k + 1 := ⟨n - 1, by omega⟩
  have hread : readAt (op.level + 1) n (ts ++ (withWord op.word tss ++ rest)) = some (t, _) :=
    h.read n _ (by omega) (follows_withWord (by omega) tss (hrest.mono (Nat.le_succ op.level)))
  have hoperands : moreOf op n (withWord op.word tss ++ rest) = some (operands, rest) :=
    moreOf_append op hmore (by omega) hrest
  rw [List.append_assoc, readAt_boolean, hread, Option.bind_some, hoperands, Option.map_some]
  simp [boolean, hne]

/-! ## Comparisons -/

/-- The tokens of a comparison. -/
def ComparisonOperator.tokens : ComparisonOperator → List Token
  | isNot => [.word "is", .word "not"]
  | notIn => [.word "not", .word "in"]
  | is => [.word "is"]
  | isIn => [.word "in"]
  | op => [.mark op.mark]

theorem comparison?_tokens (op : ComparisonOperator) {rest : List Token}
    (h : afterWord? "not" rest = none) : comparison? (op.tokens ++ rest) = some (op, rest) := by
  cases op with
  | is => simp [ComparisonOperator.tokens, comparison?, h]
  | _ => rfl

theorem follows_tokens (op : ComparisonOperator) (rest : List Token) :
    Follows 8 (op.tokens ++ rest) := by
  cases op <;> exact follows_cons (by decide) _

theorem length_tokens_pos (op : ComparisonOperator) : 0 < op.tokens.length := by
  cases op <;> decide

/-- The tokens of operands, each after its comparison. -/
def withComparisons (more : List (ComparisonOperator × List Token)) : List Token :=
  more.flatMap fun p => p.1.tokens ++ p.2

/-- The operand of a comparison is read from its tokens. -/
def ReadsCompared (p : ComparisonOperator × List Token) (q : ComparisonOperator × Tree) : Prop :=
  p.1 = q.1 ∧ Reads 8 p.2 q.2

theorem follows_withComparisons (more : List (ComparisonOperator × List Token)) {rest : List Token}
    (hrest : Follows 7 rest) : Follows 8 (withComparisons more ++ rest) := by
  cases more with
  | nil => exact hrest.mono (by decide)
  | cons p more =>
      simp only [withComparisons, List.flatMap_cons, List.append_assoc]
      exact follows_tokens p.1 _

theorem comparisons_append {more : List (ComparisonOperator × List Token)}
    {operands : List (ComparisonOperator × Tree)} (h : List.Forall₂ ReadsCompared more operands)
    {n : Nat} {rest : List Token} (hn : 40 * (withComparisons more).length + 1 ≤ n)
    (hrest : Follows 7 rest) :
    comparisons n (withComparisons more ++ rest) = some (operands, rest) := by
  induction h generalizing n with
  | nil =>
      obtain ⟨n, rfl⟩ : ∃ k, n = k + 1 := ⟨n - 1, by omega⟩
      simp [withComparisons, comparisons, hrest.no_comparison]
  | @cons p q more operands hcompared _ ih =>
      obtain ⟨op, ts⟩ := p
      obtain ⟨op', t⟩ := q
      obtain ⟨rfl, hreads⟩ := hcompared
      change Reads 8 ts t at hreads
      have htokens : withComparisons ((op, ts) :: more) =
          op.tokens ++ (ts ++ withComparisons more) := by simp [withComparisons]
      have hpos := length_tokens_pos op
      rw [htokens] at hn ⊢
      simp only [List.length_append] at hn
      obtain ⟨n, rfl⟩ : ∃ k, n = k + 1 := ⟨n - 1, by omega⟩
      have hread : operation n operatorLevels (ts ++ (withComparisons more ++ rest)) =
          some (t, _) := hreads.read n _ (by omega) (follows_withComparisons more hrest)
      have hword : afterWord? "not" (ts ++ (withComparisons more ++ rest)) = none :=
        hreads.starts.not_word (by decide) _
      have hop := comparison?_tokens op hword
      rw [List.append_assoc, List.append_assoc, comparisons, hop]
      simp [hread, ih (n := n) (by omega)]

theorem Reads.phrase_comparison (h : Reads 8 ts t)
    {more : List (ComparisonOperator × List Token)} {operands : List (ComparisonOperator × Tree)}
    (hmore : List.Forall₂ ReadsCompared more operands) (hne : operands ≠ []) :
    Phrase 7 (ts ++ withComparisons more)
      (.comparison (operands.map Prod.fst) (t :: operands.map Prod.snd)) := by
  have hstarts : Starts 7 (ts ++ withComparisons more) := by
    refine (h.starts.mono (by decide)).append fun u hu => ?_
    cases more with
    | nil => cases hu
    | cons p more =>
        obtain ⟨op, us⟩ := p
        cases op <;> cases hu <;> rfl
  refine phrase_of_reads ⟨hstarts, fun n rest hn hrest => ?_⟩ (by decide) (by decide)
  rw [List.length_append] at hn
  obtain ⟨n, rfl⟩ : ∃ k, n = k + 1 := ⟨n - 1, by omega⟩
  have hread : operation n operatorLevels (ts ++ (withComparisons more ++ rest)) = some (t, _) :=
    h.read n _ (by omega) (follows_withComparisons more hrest)
  have hnot : afterWord? "not" (ts ++ (withComparisons more ++ rest)) = none :=
    h.starts.not_word (by decide) _
  have hoperands : comparisons n (withComparisons more ++ rest) = some (operands, rest) :=
    comparisons_append hmore (by omega) hrest
  rw [List.append_assoc]
  change inversion (n + 1) _ = _
  rw [inversion, hnot]
  simp [hread, hoperands, comparison, hne]

/-! ## Conditionals -/

theorem Reads.phrase_conditional (h : Reads 4 ts t) (htest : Reads 4 us u)
    (hotherwise : Reads 3 vs v) :
    Phrase 3 (ts ++ .word "if" :: (us ++ .word "else" :: vs)) (.conditional t u v) := by
  refine phrase_of_reads ⟨(h.starts.mono (by decide)).append ?_, fun n rest hn hrest => ?_⟩
    (by decide) (by decide)
  · rintro _ ⟨⟩
    rfl
  simp only [List.length_append, List.length_cons] at hn
  obtain ⟨n, rfl⟩ : ∃ k, n = k + 1 := ⟨n - 1, by omega⟩
  have hbody : disjunction n (ts ++ .word "if" :: (us ++ .word "else" :: (vs ++ rest))) =
      some (t, _) := h.read n _ (by omega) (follows_cons (by decide) _)
  have htest' : disjunction n (us ++ .word "else" :: (vs ++ rest)) = some (u, _) :=
    htest.read n _ (by omega) (follows_cons (by decide) _)
  have hread : expression n (vs ++ rest) = some (v, rest) :=
    hotherwise.read n rest (by omega) hrest
  have hlambda : afterWord? "lambda" (ts ++ .word "if" :: (us ++ .word "else" :: (vs ++ rest))) =
      none := h.starts.not_word (by decide) _
  simp only [List.append_assoc, List.cons_append]
  change expression (n + 1) _ = _
  rw [expression, hlambda]
  simp [hbody, afterWord?, htest', hread]

end Entity.Formula
