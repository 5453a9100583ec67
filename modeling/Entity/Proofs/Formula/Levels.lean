import Entity.Formula.Parser
import Entity.Formula.Writer
import Mathlib.Tactic.Common
import Mathlib.Tactic.IntervalCases

/-!
# Reading at levels

Each function that reads expressions reads those of a level.  Tokens are read as an expression of a
level in front of everything that does not go on with it.  Main statements: what is read at a level is
read alike at every looser one, and how operators, functions and brackets are read.
-/

namespace Entity.Formula

/-! ## Levels of tokens -/

/-- The levels at which words go on with the expression before them. -/
def wordLevels : List (String × Nat) :=
  [("if", 3), ("or", 4), ("and", 5), ("not", 7), ("in", 7), ("is", 7)]

/-- The levels at which marks go on with the expression before them. -/
def markLevels : List (String × Nat) :=
  [("==", 7), ("!=", 7), ("<", 7), ("<=", 7), (">", 7), (">=", 7), ("|", 8), ("^", 9), ("&", 10),
    ("<<", 11), (">>", 11), ("+", 12), ("-", 12), ("*", 13), ("/", 13), ("//", 13), ("%", 13),
    ("@", 13), ("**", 15), (".", 17), ("(", 17), ("[", 17), ("=", 17), (":=", 17)]

/-- The level at which a token goes on with the expression before it; zero if it does not. -/
def Token.goesOn : Token → Nat
  | word w => (wordLevels.lookup w).getD 0
  | mark m => (markLevels.lookup m).getD 0
  | text _ => 18
  | _ => 0

/-- The levels of words that begin expressions, apart from names. -/
def openingWords : List (String × Nat) :=
  [("lambda", 3), ("not", 6), ("await", 16), ("None", 17), ("True", 17), ("False", 17)]

/-- The levels of marks that begin expressions. -/
def openingMarks : List (String × Nat) :=
  [("+", 14), ("-", 14), ("~", 14), ("(", 17), ("[", 17), ("\x7b", 17), ("...", 17)]

/-- The level of the loosest expression that a token begins; zero if it begins none. -/
def Token.opens : Token → Nat
  | word w => (openingWords.lookup w).getD (if keywords.contains w then 0 else 17)
  | mark m => (openingMarks.lookup m).getD 0
  | number _ | text _ => 17
  | _ => 0

/-- What follows does not go on with an expression of a level. -/
def Follows (level : Nat) (rest : List Token) : Prop :=
  ∀ t, rest.head? = some t → t.goesOn < level

theorem Follows.mono {level level' : Nat} {rest : List Token} (h : Follows level rest)
    (hle : level ≤ level') : Follows level' rest := fun t ht => Nat.lt_of_lt_of_le (h t ht) hle

theorem follows_cons {level : Nat} {t : Token} (h : t.goesOn < level) (rest : List Token) :
    Follows level (t :: rest) := by
  intro u hu
  cases hu
  exact h

theorem Follows.not_word {level : Nat} {rest : List Token} (h : Follows level rest) {w : String}
    (hw : level ≤ (Token.word w).goesOn) : afterWord? w rest = none := by
  cases rest with
  | nil => rfl
  | cons t rest =>
      cases t with
      | word w' =>
          refine if_neg ?_
          rintro rfl
          have hlt := h _ rfl
          omega
      | _ => rfl

theorem Follows.not_mark {level : Nat} {rest : List Token} (h : Follows level rest) {m : String}
    (hm : level ≤ (Token.mark m).goesOn) : afterMark? m rest = none := by
  cases rest with
  | nil => rfl
  | cons t rest =>
      cases t with
      | mark m' =>
          refine if_neg ?_
          rintro rfl
          have hlt := h _ rfl
          omega
      | _ => rfl

/-! ## Beginnings of expressions -/

/-- The token is a mark that binds the name before it. -/
def binds : Token → Bool
  | .mark m => m == ":=" || m == "="
  | _ => false

/-- The tokens begin an expression of a level, and no name that is bound. -/
def Starts (level : Nat) (ts : List Token) : Prop :=
  ∃ first more, ts = first :: more ∧ level ≤ first.opens ∧
    ∀ w t, first = .word w → more.head? = some t → binds t = false

theorem Starts.mono {level level' : Nat} {ts : List Token} (h : Starts level' ts)
    (hle : level ≤ level') : Starts level ts := by
  obtain ⟨first, more, rfl, hopens, hbinds⟩ := h
  exact ⟨first, more, rfl, hle.trans hopens, hbinds⟩

theorem Starts.append {level : Nat} {ts us : List Token} (h : Starts level ts)
    (hus : ∀ t, us.head? = some t → binds t = false) : Starts level (ts ++ us) := by
  obtain ⟨first, more, rfl, hopens, hbinds⟩ := h
  refine ⟨first, more ++ us, rfl, hopens, fun w t hw ht => ?_⟩
  cases more with
  | nil => exact hus t ht
  | cons u more => exact hbinds w t hw ht

/-- Tokens that begin with a mark bind no name. -/
theorem starts_mark {level : Nat} {m : String} (h : level ≤ (Token.mark m).opens)
    (ts : List Token) : Starts level (.mark m :: ts) := ⟨_, ts, rfl, h, nofun⟩

theorem Starts.length_pos {level : Nat} {ts : List Token} (h : Starts level ts) :
    0 < ts.length := by
  obtain ⟨first, more, rfl, -⟩ := h
  simp

/-- What begins an expression binds no name. -/
theorem Starts.head_not_binds {level : Nat} {ts : List Token} (h : Starts level ts)
    (hlevel : 0 < level) : ∀ t, ts.head? = some t → binds t = false := by
  obtain ⟨first, more, rfl, hopens, -⟩ := h
  intro t ht
  cases ht
  by_contra hbinds
  cases first with
  | mark m =>
      simp only [binds, Bool.not_eq_false, Bool.or_eq_true, beq_iff_eq] at hbinds
      have hnone : ∀ m ∈ [":=", "="], (Token.mark m).opens = 0 := by decide
      have hopens' := hnone m (by simpa using hbinds)
      omega
  | _ => exact hbinds rfl

/-- A word before an expression. -/
theorem Starts.cons_word {level level' : Nat} {ts : List Token} (h : Starts level ts)
    (hlevel : 0 < level) {w : String} (hw : level' ≤ (Token.word w).opens) :
    Starts level' (.word w :: ts) := ⟨_, ts, rfl, hw, fun _ t _ => h.head_not_binds hlevel t⟩

theorem Starts.not_word {level : Nat} {ts : List Token} (h : Starts level ts) {w : String}
    (hw : (Token.word w).opens < level) (rest : List Token) : afterWord? w (ts ++ rest) = none := by
  obtain ⟨first, more, rfl, hopens, -⟩ := h
  cases first with
  | word w' =>
      refine if_neg ?_
      rintro rfl
      omega
  | _ => rfl

theorem Starts.not_mark {level : Nat} {ts : List Token} (h : Starts level ts) {m : String}
    (hm : (Token.mark m).opens < level) (rest : List Token) :
    afterMark? m (ts ++ rest) = none := by
  obtain ⟨first, more, rfl, hopens, -⟩ := h
  cases first with
  | mark m' =>
      refine if_neg ?_
      rintro rfl
      omega
  | _ => rfl

/-! ## Functions for levels -/

/-- A base of a power. -/
def base (n : Nat) (ts : List Token) : Reading :=
  match afterWord? "await" ts with
  | some ts => (primary n ts).map fun (t, ts) => (Tree.await t, ts)
  | none => primary n ts

/-- A power after its base. -/
theorem power_of_base {n : Nat} {ts us : List Token} {b : Tree} (h : base n ts = some (b, us)) :
    power (n + 1) ts = match afterMark? "**" us with
      | some us => (factor n us).map fun e => (.binary .power b e.1, e.2)
      | none => some (b, us) := by
  have hafter : (do
      match afterMark? "**" us with
      | some us =>
        let (exponent, us) ← factor n us
        return (Tree.binary .power b exponent, us)
      | none => return (b, us) : Reading) = match afterMark? "**" us with
      | some us => (factor n us).map fun e => (.binary .power b e.1, e.2)
      | none => some (b, us) := by
    cases afterMark? "**" us with
    | none => rfl
    | some us => cases hfactor : factor n us <;> simp [hfactor]
  rw [← hafter, power]
  unfold base at h
  cases hword : afterWord? "await" ts with
  | none =>
      simp only [hword] at h ⊢
      rw [h]
      rfl
  | some rest =>
      simp only [hword] at h ⊢
      rw [h]
      rfl

/-- The operators of a level. -/
def operatorsAt (level : Nat) : List (String × BinaryOperator) :=
  (operatorLevels[level - 8]?).getD []

/-- The expressions of a level. -/
def readAt : Nat → Nat → List Token → Reading
  | 4, n, ts => disjunction n ts
  | 5, n, ts => conjunction n ts
  | 6, n, ts => inversion n ts
  | 7, n, ts => inversion n ts
  | 8, n, ts => operation n (operatorLevels.drop 0) ts
  | 9, n, ts => operation n (operatorLevels.drop 1) ts
  | 10, n, ts => operation n (operatorLevels.drop 2) ts
  | 11, n, ts => operation n (operatorLevels.drop 3) ts
  | 12, n, ts => operation n (operatorLevels.drop 4) ts
  | 13, n, ts => operation n (operatorLevels.drop 5) ts
  | 14, n, ts => factor n ts
  | 15, n, ts => power n ts
  | 16, n, ts => base n ts
  | 17, n, ts => primary n ts
  | _, n, ts => expression n ts

/-- The level is one of operators that bind to the left. -/
def isOperatorLevel (level : Nat) : Bool := 8 ≤ level && level ≤ 13

theorem readAt_of_isOperatorLevel {level : Nat} (h : isOperatorLevel level = true) (n : Nat)
    (ts : List Token) : readAt level n ts = operation n (operatorLevels.drop (level - 8)) ts := by
  simp only [isOperatorLevel, Bool.and_eq_true, decide_eq_true_eq] at h
  obtain ⟨hlow, hhigh⟩ := h
  interval_cases level <;> rfl

/-- Expressions of a level and the operators between them. -/
theorem operatorLevels_drop {level : Nat} (h : isOperatorLevel level = true) :
    operatorLevels.drop (level - 8) = operatorsAt level :: operatorLevels.drop (level + 1 - 8) := by
  simp only [isOperatorLevel, Bool.and_eq_true, decide_eq_true_eq] at h
  obtain ⟨hlow, hhigh⟩ := h
  interval_cases level <;> rfl

/-- Tokens are read as an expression of a level. -/
structure Reads (level : Nat) (ts : List Token) (t : Tree) : Prop where
  starts : Starts level ts
  read : ∀ n rest, 40 * ts.length + 40 ≤ n + 2 * level → Follows level rest →
    readAt level n (ts ++ rest) = some (t, rest)

/-- Tokens are read as a first operand of a level, or as what has trailers. -/
structure Leads (level : Nat) (ts : List Token) (t : Tree) : Prop where
  starts : Starts level ts
  lead : ∀ n rest, 40 * ts.length + 40 ≤ n + 2 * level → Follows (level + 1) rest →
    ∃ m, n ≤ m + 2 * ts.length ∧ readAt level n (ts ++ rest) =
      if level = 17 then trailers m t rest
      else moreOperands m (operatorsAt level) (operatorLevels.drop (level + 1 - 8)) t rest

/-! ## What ends an expression -/

theorem mem_of_lookup {α : Type} {l : List (String × α)} {s : String} {a : α}
    (h : l.lookup s = some a) : (s, a) ∈ l := by
  induction l with
  | nil => cases h
  | cons p l ih =>
      obtain ⟨s', b⟩ := p
      rw [List.lookup_cons] at h
      split at h
      · rename_i heq
        cases h
        rw [beq_iff_eq.mp heq]
        exact List.mem_cons_self
      · exact List.mem_cons_of_mem _ (ih h)

theorem goesOn_of_mem_operatorsAt {level : Nat} (h : isOperatorLevel level = true) :
    ∀ p ∈ operatorsAt level, (Token.mark p.1).goesOn = level := by
  simp only [isOperatorLevel, Bool.and_eq_true, decide_eq_true_eq] at h
  obtain ⟨hlow, hhigh⟩ := h
  interval_cases level <;> decide

theorem Follows.no_operator {level : Nat} {rest : List Token} (h : Follows level rest)
    (hlevel : isOperatorLevel level = true) : operator? (operatorsAt level) rest = none := by
  cases rest with
  | nil => rfl
  | cons t rest =>
      cases t with
      | mark m =>
          cases hlookup : (operatorsAt level).lookup m with
          | none => simp [operator?, hlookup]
          | some op =>
              have hm : (Token.mark m).goesOn = level :=
                goesOn_of_mem_operatorsAt hlevel _ (mem_of_lookup hlookup)
              exact absurd (h _ rfl) (by omega)
      | _ => rfl

theorem Follows.no_comparison {rest : List Token} (h : Follows 7 rest) : comparison? rest = none := by
  cases rest with
  | nil => rfl
  | cons t rest =>
      have hlt := h t rfl
      cases t with
      | mark m =>
          unfold comparison?
          dsimp only
          split_ifs <;> first | rfl | (subst_vars; exact absurd hlt (by decide))
      | word w =>
          unfold comparison?
          dsimp only
          split_ifs <;> first | rfl | (subst_vars; exact absurd hlt (by decide))
      | _ => rfl

theorem Follows.no_trailer {n : Nat} {t : Tree} {rest : List Token} (h : Follows 17 rest) :
    trailers (n + 1) t rest = some (t, rest) := by
  unfold trailers
  split
  · exact absurd (h _ rfl) (by decide)
  · exact absurd (h _ rfl) (by decide)
  · exact absurd (h _ rfl) (by decide)
  · rfl

/-! ## Looser levels -/

section Weaken

variable {ts : List Token} {t : Tree}

theorem Reads.asExpression (h : Reads 4 ts t) : Reads 3 ts t where
  starts := h.starts.mono (by decide)
  read n rest hn hrest := by
    obtain ⟨n, rfl⟩ : ∃ k, n = k + 1 := ⟨n - 1, by omega⟩
    have hread : disjunction n (ts ++ rest) = some (t, rest) :=
      h.read n rest (by omega) (hrest.mono (by decide))
    change expression (n + 1) (ts ++ rest) = _
    rw [expression, h.starts.not_word (by decide), hread]
    simp [hrest.not_word (w := "if") (by decide)]

theorem Reads.asDisjunction (h : Reads 5 ts t) : Reads 4 ts t where
  starts := h.starts.mono (by decide)
  read n rest hn hrest := by
    obtain ⟨n, rfl⟩ : ∃ k, n = k + 2 := ⟨n - 2, by omega⟩
    have hread : conjunction (n + 1) (ts ++ rest) = some (t, rest) :=
      h.read (n + 1) rest (by omega) (hrest.mono (by decide))
    change disjunction (n + 2) (ts ++ rest) = _
    rw [disjunction, hread]
    simp [moreOr, hrest.not_word (w := "or") (by decide), boolean]

theorem Reads.asConjunction (h : Reads 6 ts t) : Reads 5 ts t where
  starts := h.starts.mono (by decide)
  read n rest hn hrest := by
    obtain ⟨n, rfl⟩ : ∃ k, n = k + 2 := ⟨n - 2, by omega⟩
    have hread : inversion (n + 1) (ts ++ rest) = some (t, rest) :=
      h.read (n + 1) rest (by omega) (hrest.mono (by decide))
    change conjunction (n + 2) (ts ++ rest) = _
    rw [conjunction, hread]
    simp [moreAnd, hrest.not_word (w := "and") (by decide), boolean]

theorem Reads.asInversion (h : Reads 7 ts t) : Reads 6 ts t where
  starts := h.starts.mono (by decide)
  read n rest hn hrest := h.read n rest (by omega) (hrest.mono (by decide))

theorem Reads.asComparison (h : Reads 8 ts t) : Reads 7 ts t where
  starts := h.starts.mono (by decide)
  read n rest hn hrest := by
    obtain ⟨n, rfl⟩ : ∃ k, n = k + 2 := ⟨n - 2, by omega⟩
    have hread : operation (n + 1) operatorLevels (ts ++ rest) = some (t, rest) :=
      h.read (n + 1) rest (by omega) (hrest.mono (by decide))
    change inversion (n + 2) (ts ++ rest) = _
    rw [inversion, h.starts.not_word (by decide), hread]
    simp [comparisons, hrest.no_comparison, comparison]

/-- What is read at the next level is read as an operand. -/
theorem Reads.operand {level : Nat} (h : Reads (level + 1) ts t)
    (hlevel : isOperatorLevel level = true) {n : Nat} {rest : List Token}
    (hn : 40 * ts.length + 40 ≤ n + 2 * (level + 1)) (hrest : Follows (level + 1) rest) :
    operation (n + 1) (operatorLevels.drop (level + 1 - 8)) (ts ++ rest) = some (t, rest) := by
  by_cases hlast : level = 13
  · subst hlast
    have hfactor : factor n (ts ++ rest) = some (t, rest) := h.read n rest hn hrest
    change operation (n + 1) [] (ts ++ rest) = _
    rw [operation, hfactor]
  · have hnext : isOperatorLevel (level + 1) = true := by
      simp only [isOperatorLevel, Bool.and_eq_true, decide_eq_true_eq] at hlevel ⊢
      omega
    rw [← readAt_of_isOperatorLevel hnext]
    exact h.read (n + 1) rest (by omega) hrest

/-- What is read at the next level is read as a first operand. -/
theorem Reads.leads {level : Nat} (h : Reads (level + 1) ts t)
    (hlevel : isOperatorLevel level = true) : Leads level ts t where
  starts := h.starts.mono (Nat.le_succ level)
  lead n rest hn hrest := by
    have hne : level ≠ 17 := by
      rintro rfl
      cases hlevel
    have hbounds : 8 ≤ level ∧ level ≤ 13 := by simpa [isOperatorLevel] using hlevel
    have hlength : 0 < ts.length := h.starts.length_pos
    obtain ⟨n, rfl⟩ : ∃ k, n = k + 2 := ⟨n - 2, by omega⟩
    refine ⟨n + 1, by omega, ?_⟩
    rw [readAt_of_isOperatorLevel hlevel, operatorLevels_drop hlevel, operation,
      h.operand hlevel (by omega) hrest, if_neg hne]
    rfl

theorem Leads.readsOperand {level : Nat} (h : Leads level ts t)
    (hlevel : isOperatorLevel level = true) : Reads level ts t where
  starts := h.starts
  read n rest hn hrest := by
    have hne : level ≠ 17 := by
      rintro rfl
      cases hlevel
    have hbounds : 8 ≤ level ∧ level ≤ 13 := by simpa [isOperatorLevel] using hlevel
    obtain ⟨m, hm, hlead⟩ := h.lead n rest hn (hrest.mono (Nat.le_succ level))
    obtain ⟨m, rfl⟩ : ∃ k, m = k + 1 := ⟨m - 1, by omega⟩
    rw [hlead, if_neg hne, moreOperands, hrest.no_operator hlevel]

/-- A power is a factor without signs, also in front of what goes on with factors only. -/
theorem Reads.factor_eq (h : Reads 15 ts t) {n : Nat} {rest : List Token}
    (hn : 40 * ts.length + 10 ≤ n) (hrest : Follows 15 rest) :
    factor (n + 1) (ts ++ rest) = some (t, rest) := by
  have hread : power n (ts ++ rest) = some (t, rest) := h.read n rest (by omega) hrest
  obtain ⟨first, more, rfl, hopens, -⟩ := h.starts
  cases first with
  | mark m =>
      have hunary : prefixOperator? m = none := by
        unfold prefixOperator?
        split_ifs <;> first | rfl | (subst_vars; exact absurd hopens (by decide))
      rw [List.cons_append, factor]
      simp only [hunary]
      exact hread
  | _ => exact hread

theorem Reads.asFactor (h : Reads 15 ts t) : Reads 14 ts t where
  starts := h.starts.mono (by decide)
  read n rest hn hrest := by
    obtain ⟨n, rfl⟩ : ∃ k, n = k + 1 := ⟨n - 1, by omega⟩
    exact h.factor_eq (by omega) (hrest.mono (by decide))

theorem Reads.asPower (h : Reads 16 ts t) : Reads 15 ts t where
  starts := h.starts.mono (by decide)
  read n rest hn hrest := by
    obtain ⟨n, rfl⟩ : ∃ k, n = k + 1 := ⟨n - 1, by omega⟩
    have hread : base n (ts ++ rest) = some (t, rest) :=
      h.read n rest (by omega) (hrest.mono (by decide))
    change power (n + 1) (ts ++ rest) = _
    rw [power_of_base hread]
    simp [hrest.not_mark (m := "**") (by decide)]

theorem Reads.asBase (h : Reads 17 ts t) : Reads 16 ts t where
  starts := h.starts.mono (by decide)
  read n rest hn hrest := by
    have hread : primary n (ts ++ rest) = some (t, rest) :=
      h.read n rest (by omega) (hrest.mono (by decide))
    change base n (ts ++ rest) = _
    rw [base, h.starts.not_word (by decide)]
    exact hread

theorem Leads.readsPrimary (h : Leads 17 ts t) : Reads 17 ts t where
  starts := h.starts
  read n rest hn hrest := by
    obtain ⟨m, hm, hlead⟩ := h.lead n rest hn (hrest.mono (by decide))
    obtain ⟨m, rfl⟩ : ∃ k, m = k + 1 := ⟨m - 1, by omega⟩
    rw [hlead, if_pos rfl, hrest.no_trailer]

/-- What is read at a level is read at the next looser one. -/
theorem Reads.loosen {level : Nat} (h : Reads (level + 1) ts t) (hlow : 3 ≤ level)
    (hhigh : level < 17) : Reads level ts t := by
  by_cases hlevel : isOperatorLevel level = true
  · exact (h.leads hlevel).readsOperand hlevel
  · have hcases : level = 3 ∨ level = 4 ∨ level = 5 ∨ level = 6 ∨ level = 7 ∨ level = 14 ∨
        level = 15 ∨ level = 16 := by
      simp only [isOperatorLevel, Bool.and_eq_true, decide_eq_true_eq] at hlevel
      omega
    rcases hcases with rfl | rfl | rfl | rfl | rfl | rfl | rfl | rfl
    · exact h.asExpression
    · exact h.asDisjunction
    · exact h.asConjunction
    · exact h.asInversion
    · exact h.asComparison
    · exact h.asFactor
    · exact h.asPower
    · exact h.asBase

/-- What is read at a level is read at every looser one. -/
theorem Reads.mono {level level' : Nat} (h : Reads level' ts t) (hlow : 3 ≤ level)
    (hle : level ≤ level') (hhigh : level' ≤ 17) : Reads level ts t := by
  induction level', hle using Nat.le_induction with
  | base => exact h
  | succ k hk ih => exact ih (h.loosen (hlow.trans hk) hhigh) (by omega)

end Weaken

/-! ## Phrases -/

/-- Tokens are an expression of a level, also as its first operand or before trailers. -/
structure Phrase (level : Nat) (ts : List Token) (t : Tree) : Prop where
  reads : Reads level ts t
  leads : isOperatorLevel level = true ∨ level = 17 → Leads level ts t

theorem phrase_of_reads {level : Nat} {ts : List Token} {t : Tree} (h : Reads level ts t)
    (hlevel : isOperatorLevel level = false) (hatom : level ≠ 17) : Phrase level ts t :=
  ⟨h, fun hloop => by simp [hlevel, hatom] at hloop⟩

theorem Leads.phrase {level : Nat} {ts : List Token} {t : Tree} (h : Leads level ts t)
    (hlevel : isOperatorLevel level = true ∨ level = 17) : Phrase level ts t := by
  refine ⟨?_, fun _ => h⟩
  rcases hlevel with hlevel | rfl
  · exact h.readsOperand hlevel
  · exact h.readsPrimary

theorem Phrase.mono {level level' : Nat} {ts : List Token} {t : Tree} (h : Phrase level' ts t)
    (hlow : 3 ≤ level) (hle : level ≤ level') (hhigh : level' ≤ 17) : Phrase level ts t := by
  rcases Nat.eq_or_lt_of_le hle with rfl | hlt
  · exact h
  · refine ⟨h.reads.mono hlow hle hhigh, fun hloop => ?_⟩
    rcases hloop with hlevel | rfl
    · exact (h.reads.mono (by omega) hlt hhigh).leads hlevel
    · omega

end Entity.Formula
