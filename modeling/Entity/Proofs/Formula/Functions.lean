import Entity.Proofs.Formula.Phrases

/-!
# Functions, bound values and yields

How functions are read from their parameters and bodies, and what stands in brackets only: values with
a name that is bound to them, and yields.  Main statement: the parameters are read as the state of the
reading allows them one after the other.
-/

namespace Entity.Formula

variable {ts us : List Token} {t u : Tree}

/-! ## Parameters -/

/-- A parameter with or without a default: its name and its default. -/
inductive IsParameter : List Token → String → Tree → Prop where
  | bare {w : String} (hw : keywords.contains w = false) :
      IsParameter [.word w] (Text.normalName w) .absent
  | defaulted {w : String} {ts : List Token} {t : Tree} (hw : keywords.contains w = false)
      (h : Reads 3 ts t) : IsParameter (.word w :: .mark "=" :: ts) (Text.normalName w) t

/-- The tokens of parameters, and the parameters that are read from them in a state. -/
inductive ParametersFrom : ParameterState → List (List Token) → List Tree → Prop where
  | done (s : ParameterState) : ParametersFrom s [] s.read
  | plain {s s' : ParameterState} {ts : List Token} {id : String} {d : Tree}
      {tss : List (List Token)} {ps : List Tree} (h : IsParameter ts id d)
      (hadd : s.add? id d = some s') (hmore : ParametersFrom s' tss ps) :
      ParametersFrom s (ts :: tss) ps
  | slash {s s' : ParameterState} {tss : List (List Token)} {ps : List Tree}
      (hadd : s.addSlash? = some s') (hmore : ParametersFrom s' tss ps) :
      ParametersFrom s ([.mark "/"] :: tss) ps
  | star {s s' : ParameterState} {ts : List Token} {id : String} {d : Tree}
      {tss : List (List Token)} {ps : List Tree} (h : IsParameter ts id d)
      (hadd : s.addStar? none = some s') (hmore : ParametersFrom s' (ts :: tss) ps) :
      ParametersFrom s ([.mark "*"] :: ts :: tss) ps
  | rest {s s' : ParameterState} {w : String} {tss : List (List Token)} {ps : List Tree}
      (hw : keywords.contains w = false) (hadd : s.addStar? (some (Text.normalName w)) = some s')
      (hmore : ParametersFrom s' tss ps) :
      ParametersFrom s ([.mark "*", .word w] :: tss) ps
  | keywords {s : ParameterState} {w : String} (hw : keywords.contains w = false) :
      ParametersFrom s [[.mark "**", .word w]]
        (s.read ++ [.parameter .keywords (Text.normalName w) .absent])

theorem annotation_succ (n : Nat) (star : Bool) (ts : List Token) :
    annotation (n + 1) false star ts = some ts := rfl

theorem IsParameter.parameters_eq {id : String} {d : Tree} (h : IsParameter ts id d)
    (s : ParameterState) {n : Nat} {rest : List Token} (hn : 40 * ts.length + 20 ≤ n)
    (hrest : Follows 3 rest) : parameters (n + 1) false ":" s (ts ++ rest) =
      (s.add? id d).bind fun s => moreParameters n false ":" s rest := by
  obtain ⟨n, rfl⟩ : ∃ k, n = k + 1 := ⟨n - 1, by omega⟩
  cases h with
  | @bare w hw =>
      have hequals : afterMark? "=" rest = none := hrest.not_mark (by decide)
      rw [List.singleton_append, parameters]
      · simp [afterMark?.eq_2, nameFirst?_word hw, annotation_succ, hequals]
      all_goals simp
  | @defaulted w ts d hw h =>
      simp only [List.length_cons] at hn
      have hread : expression (n + 1) (ts ++ rest) = some (d, rest) :=
        h.read (n + 1) rest (by omega) hrest
      rw [List.cons_append, List.cons_append, parameters]
      · simp [afterMark?, nameFirst?_word hw, annotation_succ, hread]
      all_goals simp

theorem IsParameter.begins {id : String} {d : Tree} (h : IsParameter ts id d) :
    ∃ w more, ts = .word w :: more ∧ keywords.contains w = false := by
  cases h with
  | bare hw => exact ⟨_, _, rfl, hw⟩
  | defaulted hw _ => exact ⟨_, _, rfl, hw⟩

theorem follows_moreCommas_colon (tss : List (List Token)) (rest : List Token) :
    Follows 3 (moreCommas tss ++ .mark ":" :: rest) :=
  follows_moreCommas (by decide) tss (follows_cons (by decide) rest)

/-- What follows a parameter: the colon, or a comma and more parameters. -/
theorem moreParameters_eq {s : ParameterState} {tss : List (List Token)} {ps : List Tree} {n : Nat}
    {rest : List Token} (hmore : tss = [] → ps = s.read)
    (h : tss ≠ [] → parameters n false ":" s (withCommas tss ++ .mark ":" :: rest) =
      some (ps, rest)) :
    moreParameters (n + 1) false ":" s (moreCommas tss ++ .mark ":" :: rest) = some (ps, rest) := by
  cases tss with
  | nil =>
      rw [hmore rfl]
      rfl
  | cons ts tss =>
      rw [moreParameters]
      simpa [moreCommas, withCommas, afterMark?] using h (List.cons_ne_nil ts tss)

theorem ParametersFrom.read_of_nil {s : ParameterState} {tss : List (List Token)} {ps : List Tree}
    (h : ParametersFrom s tss ps) (hnil : tss = []) : ps = s.read := by
  subst hnil
  cases h
  rfl

/-- The parameters are read from their tokens. -/
theorem ParametersFrom.parameters_eq {s : ParameterState} {tss : List (List Token)}
    {ps : List Tree} (h : ParametersFrom s tss ps) {n : Nat} {rest : List Token}
    (hn : 40 * (withCommas tss).length + 30 ≤ n) :
    parameters n false ":" s (withCommas tss ++ .mark ":" :: rest) = some (ps, rest) := by
  -- the tokens of what follows a first parameter are fewer, so that the fuel lasts
  have hlength (ts : List Token) (tss : List (List Token)) :
      (withCommas (ts :: tss)).length = ts.length + (moreCommas tss).length ∧
        (tss ≠ [] → (withCommas tss).length < (moreCommas tss).length) := by
    cases tss <;> simp [withCommas, moreCommas]
  induction h generalizing n with
  | done s =>
      obtain ⟨n, rfl⟩ : ∃ k, n = k + 1 := ⟨n - 1, by omega⟩
      rfl
  | @plain s s' ts id d tss ps h hadd hmore ih =>
      obtain ⟨n, rfl⟩ : ∃ k, n = k + 2 := ⟨n - 2, by omega⟩
      obtain ⟨htotal, hfewer⟩ := hlength ts tss
      rw [withCommas, List.append_assoc,
        h.parameters_eq s (by omega) (follows_moreCommas_colon tss rest), hadd, Option.bind_some]
      exact moreParameters_eq hmore.read_of_nil fun hne => ih (by have := hfewer hne; omega)
  | @slash s s' tss ps hadd hmore ih =>
      obtain ⟨n, rfl⟩ : ∃ k, n = k + 2 := ⟨n - 2, by omega⟩
      obtain ⟨htotal, hfewer⟩ := hlength [.mark "/"] tss
      rw [List.length_singleton] at htotal
      rw [withCommas, List.append_assoc, List.singleton_append, parameters, hadd]
      simp only [Option.bind_eq_bind, Option.bind_some]
      exact moreParameters_eq hmore.read_of_nil fun hne => ih (by have := hfewer hne; omega)
  | @star s s' ts id d tss ps h hadd hmore ih =>
      obtain ⟨n, rfl⟩ : ∃ k, n = k + 1 := ⟨n - 1, by omega⟩
      obtain ⟨w, more, hts, hw⟩ := h.begins
      simp only [withCommas, moreCommas, List.length_append, List.length_cons] at hn ih
      have hname : (nameFirst? (ts ++ moreCommas tss ++ .mark ":" :: rest)).isNone = false := by
        rw [hts, List.cons_append, List.cons_append, nameFirst?_word hw]
        rfl
      rw [withCommas, moreCommas, List.append_assoc, List.singleton_append, List.cons_append,
        parameters, hname, hadd]
      exact ih (n := n) (by rw [List.length_nil] at hn; omega)
  | @rest s s' w tss ps hw hadd hmore ih =>
      obtain ⟨n, rfl⟩ : ∃ k, n = k + 2 := ⟨n - 2, by omega⟩
      obtain ⟨htotal, hfewer⟩ := hlength [.mark "*", .word w] tss
      simp only [List.length_cons, List.length_nil] at htotal
      rw [withCommas, List.append_assoc, List.cons_append, List.singleton_append, parameters]
      · simp only [nameFirst?_word hw, annotation_succ, hadd, Option.bind_eq_bind,
          Option.bind_some]
        exact moreParameters_eq hmore.read_of_nil fun hne => ih (by have := hfewer hne; omega)
      · simp
  | @keywords s w hw =>
      obtain ⟨n, rfl⟩ : ∃ k, n = k + 2 := ⟨n - 2, by omega⟩
      simp [withCommas, moreCommas, parameters, nameFirst?_word hw, annotation_succ, afterMark?]

/-- A function: its parameters, and its body after the colon. -/
theorem Reads.phrase_lambda {tss : List (List Token)} {ps : List Tree} {body : List Token}
    (hps : ParametersFrom {} tss ps) (h : Reads 3 body t) :
    Phrase 3 (.word "lambda" :: (withCommas tss ++ .mark ":" :: body)) (.lambda ps t) := by
  refine phrase_of_reads ⟨⟨_, _, rfl, by decide, fun w u _ hu => ?_⟩, fun n rest hn hrest => ?_⟩
    (by decide) (by decide)
  · cases hps with
    | done => cases hu; rfl
    | plain h _ _ =>
        obtain ⟨w, more, rfl, -⟩ := h.begins
        cases hu
        rfl
    | _ => cases hu; rfl
  · simp only [List.length_append, List.length_cons] at hn
    obtain ⟨n, rfl⟩ : ∃ k, n = k + 1 := ⟨n - 1, by omega⟩
    have hparameters : parameters n false ":" {} (withCommas tss ++ .mark ":" :: (body ++ rest)) =
        some (ps, body ++ rest) := hps.parameters_eq (by omega)
    have hread : expression n (body ++ rest) = some (t, rest) := h.read n rest (by omega) hrest
    rw [List.cons_append, List.append_assoc, List.cons_append]
    change expression (n + 1) (.word "lambda" :: (withCommas tss ++ .mark ":" :: (body ++ rest))) = _
    rw [expression, afterWord?, if_pos rfl]
    simp [hparameters, hread]

/-! ## Bound values -/

theorem Reads.phrase_assigned {w : String} (hw : keywords.contains w = false) (h : Reads 3 ts t) :
    Phrase 17 (.mark "(" :: (.word w :: .mark ":=" :: ts ++ [.mark ")"]))
      (.assigned (Text.normalName w) t) := by
  refine phrase_parenthesised fun n rest hn => ?_
  simp only [List.length_cons] at hn
  obtain ⟨n, rfl⟩ : ∃ k, n = k + 3 := ⟨n - 3, by omega⟩
  have hread : expression n (ts ++ .mark ")" :: rest) = some (t, _) :=
    h.read n _ (by omega) (follows_cons (by decide) rest)
  have hitem : item (n + 2) (.word w :: .mark ":=" :: ts ++ .mark ")" :: rest) =
      some (.assigned (Text.normalName w) t, .mark ")" :: rest) := by
    rw [List.cons_append, List.cons_append, item]
    · simp [namedExpression, bindingFirst?, nameFirst?_word hw, afterMark?, hread]
    · simp
  have hyield : afterWord? "yield" (.word w :: .mark ":=" :: ts ++ .mark ")" :: rest) = none := by
    refine if_neg ?_
    rintro rfl
    revert hw
    decide
  rw [parenthesised_eq hitem rfl hyield]
  simp [afterFirst?, atMark, atClause, atWord, afterMark?, afterWord?]

/-! ## Yields -/

/-- No expression begins with a closing bracket. -/
theorem expression_closer (n : Nat) (rest : List Token) : expression n (.mark ")" :: rest) = none := by
  have hword (w : String) : afterWord? w (.mark ")" :: rest) = none := rfl
  have hprimary (n : Nat) : primary n (.mark ")" :: rest) = none := by
    rcases n with - | - | n <;> rfl
  have hpower (n : Nat) : power n (.mark ")" :: rest) = none := by
    cases n with
    | zero => rfl
    | succ n => simp [power, hword, hprimary]
  have hfactor (n : Nat) : factor n (.mark ")" :: rest) = none := by
    cases n with
    | zero => rfl
    | succ n => exact hpower n
  have hoperation (levels : List (List (String × BinaryOperator))) (n : Nat) :
      operation n levels (.mark ")" :: rest) = none := by
    induction levels generalizing n with
    | nil =>
        cases n with
        | zero => rfl
        | succ n => exact hfactor n
    | cons level tighter ih =>
        cases n with
        | zero => rfl
        | succ n => simp [operation, ih]
  have hinversion (n : Nat) : inversion n (.mark ")" :: rest) = none := by
    cases n with
    | zero => rfl
    | succ n => simp [inversion, hword, hoperation]
  have hconjunction (n : Nat) : conjunction n (.mark ")" :: rest) = none := by
    cases n with
    | zero => rfl
    | succ n => simp [conjunction, hinversion]
  have hdisjunction (n : Nat) : disjunction n (.mark ")" :: rest) = none := by
    cases n with
    | zero => rfl
    | succ n => simp [disjunction, hconjunction]
  cases n with
  | zero => rfl
  | succ n => simp [expression, hword, hdisjunction]

/-- What is read after `yield` in brackets. -/
theorem phrase_yielded (h : ∀ n rest, 40 * ts.length + 40 ≤ n →
    yielded n (ts ++ .mark ")" :: rest) = some (t, .mark ")" :: rest)) :
    Phrase 17 (.mark "(" :: (.word "yield" :: ts ++ [.mark ")"])) t := by
  refine phrase_parenthesised fun n rest hn => ?_
  rw [List.length_cons] at hn
  obtain ⟨n, rfl⟩ : ∃ k, n = k + 1 := ⟨n - 1, by omega⟩
  rw [List.cons_append, parenthesised, h n rest (by omega)]
  rfl

theorem phrase_yield_absent :
    Phrase 17 (.mark "(" :: ([.word "yield"] ++ [.mark ")"])) (.yield .absent) := by
  refine phrase_yielded fun n rest hn => ?_
  obtain ⟨n, rfl⟩ : ∃ k, n = k + 3 := ⟨n - 3, by omega⟩
  have hnone : starExpressions (n + 2) (.mark ")" :: rest) = none := by
    have hfirst : starExpression (n + 1) (.mark ")" :: rest) = none := expression_closer n rest
    simp [starExpressions, hfirst]
  rw [List.nil_append, yielded, hnone]
  nofun

/-- An expression before a closing bracket is the only one there. -/
theorem Reads.starExpressions_eq (h : Reads 3 ts t) {n : Nat} {rest : List Token}
    (hn : 40 * ts.length + 36 ≤ n) :
    starExpressions n (ts ++ .mark ")" :: rest) = some (t, .mark ")" :: rest) := by
  obtain ⟨n, rfl⟩ : ∃ k, n = k + 2 := ⟨n - 2, by omega⟩
  have hread : expression n (ts ++ .mark ")" :: rest) = some (t, _) :=
    h.read n _ (by omega) (follows_cons (by decide) rest)
  have hfirst : starExpression (n + 1) (ts ++ .mark ")" :: rest) = some (t, .mark ")" :: rest) := by
    unfold starExpression
    split
    · rename_i heq
      exact absurd (h.starts.opens_le heq) (by decide)
    · exact hread
  rw [starExpressions, hfirst]
  simp [moreStarExpressions, afterMark?, tupleOrItem]

theorem Reads.phrase_yield (h : Reads 3 ts t) :
    Phrase 17 (.mark "(" :: (.word "yield" :: ts ++ [.mark ")"])) (.yield t) := by
  refine phrase_yielded fun n rest hn => ?_
  obtain ⟨n, rfl⟩ : ∃ k, n = k + 1 := ⟨n - 1, by omega⟩
  unfold yielded
  split
  · rename_i heq
    exact absurd (h.starts.opens_le heq) (by decide)
  · rw [h.starExpressions_eq (by omega)]

theorem Reads.phrase_yieldFrom (h : Reads 3 ts t) :
    Phrase 17 (.mark "(" :: (.word "yield" :: .word "from" :: ts ++ [.mark ")"]))
      (.yieldFrom t) := by
  refine phrase_yielded fun n rest hn => ?_
  rw [List.length_cons] at hn
  obtain ⟨n, rfl⟩ : ∃ k, n = k + 1 := ⟨n - 1, by omega⟩
  have hread : expression n (ts ++ .mark ")" :: rest) = some (t, _) :=
    h.read n _ (by omega) (follows_cons (by decide) rest)
  rw [List.cons_append, yielded, hread]
  rfl

end Entity.Formula
