import Entity.Outcome
import Mathlib.Tactic.Common

/-!
# Results of outcomes

Outcomes are a lawful monad.  Main statements: what a sequence gives, apart from its warnings, for
each way to build an outcome, and what is known when a sequence has succeeded.
-/

namespace Entity

namespace Outcome

variable {α β : Type}

@[ext] theorem ext {x y : Outcome α} (hresult : x.result = y.result)
    (hwarnings : x.warnings = y.warnings) : x = y := by
  cases x
  cases y
  cases hresult
  cases hwarnings
  rfl

/-- Sequences can be bracketed in any way, since their warnings are put one after the other. -/
instance : LawfulMonad Outcome := by
  refine LawfulMonad.mk' Outcome ?_ ?_ ?_
  · intro α x
    change x.andThen ok = x
    refine ext ?_ ?_
    · rw [result_andThen]
      cases x.result <;> rfl
    · rw [warnings_andThen]
      cases x.result <;> simp
  · intro α β a f
    change (ok a).andThen f = f a
    refine ext ?_ ?_
    · rw [result_andThen]
      rfl
    · rw [warnings_andThen]
      simp
  · intro α β γ x f g
    change (x.andThen f).andThen g = x.andThen fun a => (f a).andThen g
    refine ext ?_ ?_
    · simp only [result_andThen]
      cases x.result <;> rfl
    · simp only [warnings_andThen, result_andThen]
      cases x.result <;> simp [Except.bind]

@[simp] theorem result_pure (a : α) : (pure a : Outcome α).result = .ok a := rfl

@[simp] theorem result_bind (x : Outcome α) (f : α → Outcome β) :
    (x >>= f).result = x.result.bind fun a => (f a).result :=
  result_andThen x f

@[simp] theorem result_map (f : α → β) (x : Outcome α) :
    (f <$> x).result = x.result.map f := by
  change (x.andThen fun a => ok (f a)).result = _
  rw [result_andThen]
  cases x.result <;> rfl

@[simp] theorem result_lift (x : Except Failure α) : (monadLift x : Outcome α).result = x := rfl

@[simp] theorem result_fail (e : Failure) : (fail e : Outcome α).result = .error e := rfl

@[simp] theorem result_warn (w : Warning) : (warn w).result = .ok () := rfl

@[simp] theorem result_warnAll (ws : List Warning) : (warnAll ws).result = .ok () := rfl

end Outcome

/-- What succeeds as a whole has succeeded in its first part. -/
theorem bind_eq_ok {ε α β : Type} {x : Except ε α} {f : α → Except ε β} {b : β} :
    x.bind f = .ok b ↔ ∃ a, x = .ok a ∧ f a = .ok b := by
  cases x <;> simp [Except.bind]

/-- What fails as a whole has failed in its first part, or in what comes after it. -/
theorem exists_bind_eq_error {ε α β : Type} {x : Except ε α} {f : α → Except ε β} :
    (∃ e, x.bind f = .error e) ↔ (∃ e, x = .error e) ∨ ∃ a, x = .ok a ∧ ∃ e, f a = .error e := by
  cases x <;> simp [Except.bind]

theorem exists_ok_iff_not_error {ε α : Type} (x : Except ε α) :
    (∃ a, x = .ok a) ↔ ¬ ∃ e, x = .error e := by
  cases x <;> simp

theorem eq_ok_of_toOption {ε α : Type} {x : Except ε α} {a : α} (h : x.toOption = some a) :
    x = .ok a := by
  cases x with
  | error e => cases h
  | ok b => rw [Option.some.inj h]

theorem exists_map_eq_error {ε α β : Type} {f : α → β} {x : Except ε α} :
    (∃ e, x.map f = .error e) ↔ ∃ e, x = .error e := by
  cases x <;> simp [Except.map]

theorem map_eq_ok {ε α β : Type} {f : α → β} {x : Except ε α} {b : β} :
    x.map f = .ok b ↔ ∃ a, x = .ok a ∧ f a = b := by
  cases x <;> simp [Except.map]

/-- A sequence of computations fails exactly if one of them does. -/
theorem exists_mapM_eq_error {ε α β : Type} {f : α → Except ε β} {as : List α} :
    (∃ e, as.mapM f = .error e) ↔ ∃ a ∈ as, ∃ e, f a = .error e := by
  induction as with
  | nil => simp [pure, Except.pure]
  | cons a as ih =>
      rw [List.mapM_cons]
      change (∃ e, Except.bind _ _ = _) ↔ _
      simp only [exists_bind_eq_error, List.mem_cons, exists_eq_or_imp]
      constructor
      · rintro (h | ⟨b, -, h⟩)
        · exact Or.inl h
        · change ∃ e, Except.bind _ _ = _ at h
          rw [exists_bind_eq_error] at h
          rcases h with h | ⟨bs, -, e, hpure⟩
          · exact Or.inr (ih.mp h)
          · cases hpure
      · rintro (h | h)
        · exact Or.inl h
        · cases ha : f a with
          | error e => exact Or.inl ⟨e, rfl⟩
          | ok b =>
              refine Or.inr ⟨b, rfl, ?_⟩
              change ∃ e, Except.bind _ _ = _
              rw [exists_bind_eq_error]
              exact Or.inl (ih.mpr h)

end Entity
