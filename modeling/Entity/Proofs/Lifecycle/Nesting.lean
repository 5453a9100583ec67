import Entity.Proofs.Lifecycle.Composition
import Mathlib.Algebra.Order.BigOperators.Group.Finset

/-!
# How handlers nest

A handler's calls may call handlers again.  Running one counts its call, and only the first calls of
a handler act, so the calls that are left to act bound how deep calls nest.  Main statements: from a
depth above this bound on, the depth does not matter; and so calling a scripted handler is running
it, with the calls that it makes called in the same way.
-/

namespace Entity

open Run

/-! ## Calls that are left -/

namespace World

/-- The script of a handler; a handler without one does nothing. -/
def script (w : World) (number : Nat) : Script := w.scripts[number]?.getD { label := "" }

/-- The world after a call of a handler was counted and noted. -/
def counting (w : World) (number : Nat) (args : List Value) : World :=
  { w with
    calls := Entries.put number (w.callsOf number + 1) w.calls
    journal := w.journal ++ [.handled (w.script number).label (payloadArgument args) args.length] }

/-- The runtime, the number of storages and the scripts stay, and calls are only added to those that
were counted. -/
structure Spends (w w' : World) : Prop where
  runtime : w'.runtime = w.runtime
  length : w'.stores.length = w.stores.length
  scripts : w'.scripts = w.scripts
  calls : ∀ number, w.callsOf number ≤ w'.callsOf number

variable {w w' w'' : World}

theorem Spends.refl (w : World) : w.Spends w := ⟨rfl, rfl, rfl, fun _ => le_rfl⟩

theorem Spends.trans (h : w.Spends w') (h' : w'.Spends w'') : w.Spends w'' :=
  ⟨h'.runtime.trans h.runtime, h'.length.trans h.length, h'.scripts.trans h.scripts,
    fun number => (h.calls number).trans (h'.calls number)⟩

theorem Passes.spends (h : w.Passes w') : w.Spends w' :=
  ⟨h.runtime, congrArg List.length h.stores, h.scripts, h.calls⟩

theorem callsOf_counting (w : World) (number other : Nat) (args : List Value) :
    (w.counting number args).callsOf other =
      if number = other then w.callsOf number + 1 else w.callsOf other := by
  rw [callsOf, counting, Entries.get?_put]
  split
  · rfl
  · rfl

theorem spends_counting (w : World) (number : Nat) (args : List Value) :
    w.Spends (w.counting number args) := by
  refine ⟨rfl, rfl, rfl, fun other => ?_⟩
  rw [callsOf_counting]
  split
  · rename_i h
    rw [h]
    exact Nat.le_succ _
  · exact le_rfl

end World

/-! ## Operations that only go forward -/

/-- From a world on, two ways of calling functions do the same, and they only add calls. -/
def Invoke.AgreeFrom (invoke invoke' : Invoke) (w : World) : Prop :=
  ∀ w', w.Spends w' → ∀ f args, exec (invoke f args) w' = exec (invoke' f args) w' ∧
    w'.Spends (exec (invoke f args) w').2

/-- The operation goes from a world to later ones, and does not tell ways of calling functions apart
that agree from there on. -/
def Run.Forward {α : Type} (op : Invoke → Run α) : Prop :=
  ∀ (invoke invoke' : Invoke) (w : World), invoke.AgreeFrom invoke' w →
    exec (op invoke) w = exec (op invoke') w ∧ w.Spends (exec (op invoke) w).2

theorem Invoke.AgreeFrom.later {invoke invoke' : Invoke} {w w' : World}
    (h : invoke.AgreeFrom invoke' w) (hw : w.Spends w') : invoke.AgreeFrom invoke' w' :=
  fun w'' hw' => h w'' (hw.trans hw')

namespace Run

variable {α β : Type}

theorem Forward.bind {op : Invoke → Run α} {f : α → Invoke → Run β} (hop : Forward op)
    (hf : ∀ a, Forward (f a)) : Forward fun invoke => op invoke >>= fun a => f a invoke := by
  intro invoke invoke' w hagree
  obtain ⟨heq, hspends⟩ := hop invoke invoke' w hagree
  rw [exec_bind, exec_bind, ← heq]
  rcases hr : exec (op invoke) w with ⟨r, w'⟩
  rw [hr] at hspends
  cases r with
  | error e => exact ⟨rfl, hspends⟩
  | ok a =>
      obtain ⟨heq', hspends'⟩ := hf a invoke invoke' w' (hagree.later hspends)
      exact ⟨heq', hspends.trans hspends'⟩

/-- What calls no function goes forward if it only adds calls. -/
theorem forward_const {x : Run α} (h : ∀ w : World, w.Spends (exec x w).2) : Forward fun _ => x :=
  fun _ _ w _ => ⟨rfl, h w⟩

theorem forward_of_plain {x : Run α} (h : x.Plain) : Forward fun _ => x :=
  forward_const fun w => (h w).spends

/-- What leaves the world as it is. -/
theorem forward_of_world {x : Run α} (h : ∀ w, (exec x w).2 = w) : Forward fun _ => x := by
  apply forward_const
  intro w
  rw [h]
  exact World.Spends.refl w

theorem forward_call (f : Callable) (args : List Value) : Forward fun invoke => invoke f args :=
  fun _ _ w hagree => hagree w (World.Spends.refl w) f args

/-! ### Operations on instances -/

theorem forward_fire (event : String) (payload : Value) : Forward (fire · event payload) := by
  refine (forward_of_plain plain_get).bind fun w => ?_
  cases Entries.get? event w.definition.events with
  | some handler => exact forward_call _ _
  | none => exact forward_of_plain (plain_pure _)

theorem forward_usable (operation : Operation) (phases : List Phase) :
    Forward fun _ => usable operation phases := by
  refine (forward_of_plain plain_get).bind fun w => ?_
  dsimp only
  split
  · split
    · exact forward_of_plain (plain_pure _)
    · exact forward_of_plain (plain_throw _)
  · exact forward_of_plain (plain_throw _)

theorem forward_instanceAt (i : Nat) (key : String) : Forward fun _ => instanceAt i key := by
  apply forward_of_world
  intro w
  rw [exec_instanceAt]

/-- Changing a storage is no call. -/
theorem forward_change (i : Nat) (f : Storage → Storage) :
    Forward fun _ => (modify fun w => w.changeStore i f : Run Unit) :=
  forward_const fun w => ⟨rfl, World.length_changeStore w i f, rfl, fun _ => le_rfl⟩

theorem forward_create (id data : Value) : Forward (create · id data) := by
  refine (forward_usable _ _).bind fun i => ?_
  refine (forward_of_plain (plain_ofResult _)).bind fun key => ?_
  refine (forward_of_plain plain_definition).bind fun d => ?_
  refine (forward_of_plain (plain_ofResult _)).bind fun payload => ?_
  refine (forward_change _ _).bind fun _ => ?_
  exact (forward_fire _ _).bind fun _ => forward_of_plain (plain_pure _)

theorem forward_put (id data : Value) : Forward (put · id data) := by
  refine (forward_usable _ _).bind fun i => ?_
  refine (forward_of_plain (plain_ofResult _)).bind fun key => ?_
  refine (forward_instanceAt _ _).bind fun previous => ?_
  refine (forward_of_plain plain_definition).bind fun d => ?_
  refine (forward_of_plain (plain_ofResult _)).bind fun payload => ?_
  refine (forward_change _ _).bind fun _ => ?_
  exact (forward_fire _ _).bind fun _ => forward_of_plain (plain_pure _)

theorem forward_delete (id : Value) : Forward (delete · id) := by
  refine (forward_usable _ _).bind fun i => ?_
  refine (forward_of_plain (plain_ofResult _)).bind fun key => ?_
  refine (forward_instanceAt _ _).bind fun existing => ?_
  cases existing with
  | none => exact forward_of_plain (plain_pure _)
  | some existing =>
      refine (forward_change _ _).bind fun _ => ?_
      refine (forward_of_plain plain_definition).bind fun d => ?_
      exact (forward_fire _ _).bind fun _ => forward_of_plain (plain_pure _)

/-- Whatever is put together from operations on instances goes forward. -/
theorem composes_forward : Composes fun _ op => Forward op where
  plain := forward_of_plain
  bind := Forward.bind
  call := forward_call
  getInstance id := forward_of_world (exec_getInstance_world id)
  instances := forward_of_world exec_instances_world
  create := forward_create
  put := forward_put
  delete := forward_delete

end Run

/-! ## Running a handler -/

/-- How the `n`-th call of a scripted handler ends. -/
def Script.ending (s : Script) (n : Nat) : Run Value :=
  match s.faultOf n with
  | some text => throw (.fault .badValue text)
  | none => return s.answer

namespace Run

/-- A handler is counted, acts, and ends. -/
theorem exec_handle (invoke : Invoke) (number : Nat) (args : List Value) (w : World) :
    exec (handle invoke number args) w =
      exec (do
        actAll invoke (contextArgument args) (payloadArgument args)
          ((w.script number).actionsOf (w.callsOf number + 1))
        (w.script number).ending (w.callsOf number + 1)) (w.counting number args) := rfl

theorem exec_ending_world (s : Script) (n : Nat) (w : World) : (exec (s.ending n) w).2 = w := by
  unfold Script.ending
  cases s.faultOf n <;> rfl

/-- Where a handler acts, and only there, it matters how functions are called. -/
theorem exec_handle_congr {invoke invoke' : Invoke} {number : Nat} {args : List Value} {w : World}
    (h : (w.script number).actionsOf (w.callsOf number + 1) ≠ [] →
      invoke.AgreeFrom invoke' (w.counting number args)) :
    exec (handle invoke number args) w = exec (handle invoke' number args) w ∧
      w.Spends (exec (handle invoke number args) w).2 := by
  have hspends := w.spends_counting number args
  have hending : ∀ n, Forward fun _ => (w.script number).ending n := fun n =>
    forward_of_world (exec_ending_world _ n)
  rw [exec_handle, exec_handle]
  by_cases hacts : (w.script number).actionsOf (w.callsOf number + 1) = []
  · rw [hacts]
    refine ⟨rfl, ?_⟩
    show w.Spends (exec ((w.script number).ending _) (w.counting number args)).2
    rw [exec_ending_world]
    exact hspends
  · have hrun := (composes_forward.actAll (contextArgument args) (payloadArgument args)
      ((w.script number).actionsOf (w.callsOf number + 1))).bind fun _ =>
        hending (w.callsOf number + 1)
    obtain ⟨heq, hlater⟩ := hrun invoke invoke' (w.counting number args) (h hacts)
    exact ⟨heq, hspends.trans hlater⟩

/-- However deep calls may nest, they only add calls. -/
theorem spends_invokeWithin (depth : Nat) (f : Callable) (args : List Value) (w : World) :
    w.Spends (exec (invokeWithin depth f args) w).2 := by
  induction depth generalizing f args w with
  | zero =>
      cases f
      case handler => exact World.Spends.refl w
      all_goals exact (plain_apply _ _ _).spends
  | succ depth ih =>
      cases f
      case handler => exact (exec_handle_congr fun _ w' _ f args => ⟨rfl, ih f args w'⟩).2
      all_goals exact (plain_apply _ _ _).spends

/-- Every call of a function leads to a later world. -/
theorem spends_invoke (f : Callable) (args : List Value) (w : World) :
    w.Spends (exec (invoke f args) w).2 :=
  spends_invokeWithin (nesting w.scripts) f args w

/-- So does everything that is put together from operations on instances and calls. -/
theorem Forward.spends {α : Type} {op : Invoke → Run α} (h : Forward op) (w : World) :
    w.Spends (exec (op invoke) w).2 :=
  (h invoke invoke w fun w' _ f args => ⟨rfl, spends_invoke f args w'⟩).2

end Run

end Entity
