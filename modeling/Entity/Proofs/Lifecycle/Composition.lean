import Entity.Proofs.Lifecycle.Conduct

/-!
# What handlers are put together from

Everything that a handler does, through the hooks, the members of its context and the actions of its
script, is put together from a few operations: steps that touch neither the runtime nor a storage,
reading and writing instances, and calls of functions.  Main statement: a property of operations
that holds of these and is kept by sequences holds of running a handler; so what handlers have if
the functions that they call have it holds of every call, however deep handlers nest.
-/

namespace Entity

open Run

/-! ## Steps beside the runtime and the storages -/

/-- The runtime, the storages and the scripts are the same in two worlds, and calls are only added
to those that were counted. -/
structure World.Passes (w w' : World) : Prop where
  runtime : w'.runtime = w.runtime
  stores : w'.stores = w.stores
  scripts : w'.scripts = w.scripts
  calls : ∀ number, w.callsOf number ≤ w'.callsOf number

theorem World.Passes.refl (w : World) : w.Passes w := ⟨rfl, rfl, rfl, fun _ => Nat.le_refl _⟩

theorem World.Passes.trans {w w' w'' : World} (h : w.Passes w') (h' : w'.Passes w'') :
    w.Passes w'' :=
  ⟨h'.runtime.trans h.runtime, h'.stores.trans h.stores, h'.scripts.trans h.scripts,
    fun number => Nat.le_trans (h.calls number) (h'.calls number)⟩

/-- The computation is a step beside the runtime, the storages and the scripts. -/
def Run.Plain {α : Type} (x : Run α) : Prop := ∀ w : World, w.Passes (exec x w).2

namespace Run

variable {α β : Type}

theorem Plain.aside {x : Run α} (h : x.Plain) : x.Aside := fun w => ⟨(h w).runtime, (h w).stores⟩

theorem Plain.bind {x : Run α} {f : α → Run β} (hx : x.Plain) (hf : ∀ a, (f a).Plain) :
    (x >>= f).Plain := by
  intro w
  have hw := hx w
  rw [exec_bind]
  rcases hr : exec x w with ⟨r, w'⟩
  rw [hr] at hw
  cases r with
  | error e => exact hw
  | ok a => exact hw.trans (hf a w')

theorem plain_pure (a : α) : (pure a : Run α).Plain := World.Passes.refl

theorem plain_throw (e : Failure) : (throw e : Run α).Plain := World.Passes.refl

theorem plain_get : (get : Run World).Plain := World.Passes.refl

theorem plain_definition : definition.Plain := World.Passes.refl

theorem plain_ofResult (r : Except Failure α) : (ofResult r).Plain := by
  intro w
  rw [exec_ofResult]
  exact World.Passes.refl w

theorem plain_note (h : Happening) : (note h).Plain :=
  fun _ => ⟨rfl, rfl, rfl, fun _ => Nat.le_refl _⟩

/-! ### Services -/

theorem plain_missing (role : Role) : (missing role : Run α).Plain :=
  plain_definition.bind fun _ => plain_throw _

theorem plain_noCascade (field : String) : (noCascade field : Run α).Plain :=
  plain_definition.bind fun _ => plain_throw _

theorem plain_generate (request : Value) : (generate request).Plain := by
  refine plain_get.bind fun w => ?_
  split
  · refine (plain_note _).bind fun _ => ?_
    refine Plain.bind ?_ fun _ => plain_ofResult _
    exact fun _ => ⟨rfl, rfl, rfl, fun _ => Nat.le_refl _⟩
  · exact plain_missing _

theorem plain_ground (v : Value) (target : String) : (ground v target).Plain := by
  refine plain_get.bind fun w => ?_
  split
  · exact (plain_note _).bind fun _ => plain_ofResult _
  · exact plain_missing _

/-- Fetching asks one source after the other and writes nothing. -/
theorem plain_fetchAll (answer : Enrichment → Entries String String → Except Failure Value)
    (x : Instance) (es : List Enrichment) (ps : Payloads) : (fetchAll answer x ps es).Plain := by
  induction es generalizing ps with
  | nil => exact plain_pure _
  | cons e es ih =>
      refine (plain_note _).bind fun _ => ?_
      refine (plain_ofResult _).bind fun data => ?_
      exact (plain_ofResult _).bind fun entries => ih _

theorem plain_cascadeAnswer (x : Instance) (field : String) : (cascadeAnswer x field).Plain := by
  refine plain_definition.bind fun d => ?_
  split
  · split
    · exact (plain_ground _ _).bind fun _ => plain_pure _
    · split
      · exact (plain_generate _).bind fun _ => plain_pure _
      · exact plain_pure _
  · split
    · split
      · exact (plain_ground _ _).bind fun _ => plain_pure _
      · exact plain_noCascade _
    · exact plain_noCascade _

/-! ### Contexts and scripts -/

theorem plain_memberValue? (m : Member) : (memberValue? m).Plain := by
  refine plain_get.bind fun w => ?_
  cases m <;> exact plain_pure _

theorem plain_readStored (key : Value) : (readStored key).Plain := by
  refine plain_get.bind fun w => ?_
  refine (plain_ofResult _).bind fun what => ?_
  split
  · exact plain_throw _
  · split
    · exact plain_throw _
    · exact World.Passes.refl
    · split
      · exact plain_pure _
      · exact plain_throw _

theorem plain_apply (f : Callable) (args : List Value) : (apply f args).Plain := by
  refine Plain.bind ?_ fun _ => plain_ofResult _
  exact fun _ => ⟨rfl, rfl, rfl, fun _ => Nat.le_refl _⟩

/-- Counting a call adds it. -/
theorem plain_countCall (number : Nat) : (countCall number).Plain := by
  intro w
  refine ⟨rfl, rfl, rfl, fun other => ?_⟩
  show w.callsOf other ≤ (Entries.get? other (Entries.put number _ w.calls)).getD 0
  rw [Entries.get?_put]
  split
  · rename_i h
    rw [← h]
    exact Nat.le_succ _
  · exact Nat.le_refl _

end Run

/-! ## Properties of everything that handlers do -/

/-- A property of operations that is kept by sequences and holds of what handlers are put together
from. -/
structure Run.Composes (P : (α : Type) → (Invoke → Run α) → Prop) : Prop where
  plain {α : Type} {x : Run α} : x.Plain → P α fun _ => x
  bind {α β : Type} {op : Invoke → Run α} {f : α → Invoke → Run β} :
    P α op → (∀ a, P β (f a)) → P β fun invoke => op invoke >>= fun a => f a invoke
  call (f : Callable) (args : List Value) : P Value fun invoke => invoke f args
  getInstance (id : Value) : P _ fun _ => getInstance id
  instances : P _ fun _ => instances
  create (id data : Value) : P _ (create · id data)
  put (id data : Value) : P _ (put · id data)
  delete (id : Value) : P _ (delete · id)

namespace Run.Composes

variable {P : (α : Type) → (Invoke → Run α) → Prop} (h : Composes P)

include h

theorem pure {α : Type} (a : α) : P α fun _ => Pure.pure a := h.plain (plain_pure a)

theorem throw {α : Type} (e : Failure) : P α fun _ => MonadExcept.throw e :=
  h.plain (plain_throw e)

/-- What depends on the definition. -/
theorem withDefinition {α : Type} {f : Definition → Invoke → Run α} (hf : ∀ d, P α (f d)) :
    P α fun invoke => definition >>= fun d => f d invoke :=
  h.bind (h.plain plain_definition) hf

/-- What goes on with a result. -/
theorem withResult {α β : Type} (r : Except Failure α) {f : α → Invoke → Run β}
    (hf : ∀ a, P β (f a)) : P β fun invoke => ofResult r >>= fun a => f a invoke :=
  h.bind (h.plain (plain_ofResult r)) hf

/-- What is done with the answer of an operation. -/
theorem andThen {α β : Type} {op : Invoke → Run α} (hop : P α op) (g : α → β) :
    P β fun invoke => op invoke >>= fun a => Pure.pure (g a) :=
  h.bind hop fun a => h.pure (g a)

/-! ### Hooks -/

theorem resolveInstance (v : Value) : P _ fun _ => resolveInstance v := by
  unfold Run.resolveInstance
  split
  · exact h.pure _
  · refine h.bind (h.getInstance v) fun found => ?_
    split
    · exact h.pure _
    · exact h.withDefinition fun _ => h.throw _

/-- A relationship is resolved by asking a service and putting the answer. -/
theorem cascade (subject : Value) (field : String) : P _ (cascade · subject field) := by
  refine h.bind (h.resolveInstance subject) fun x => ?_
  refine h.bind (h.plain (plain_cascadeAnswer x field)) fun answer => ?_
  split
  · exact h.pure _
  · exact h.pure _
  · exact h.andThen (h.put _ _) _

theorem search (subject : Value) (field : String) : P _ fun _ => search subject field := by
  refine h.bind (h.resolveInstance subject) fun x => h.withDefinition fun d => ?_
  split
  · exact h.plain (plain_ground _ _)
  · split
    · exact h.plain (plain_ground _ _)
    · exact h.plain (plain_noCascade _)

theorem enrich (subject : Value) : P _ (enrich · subject) := by
  refine h.bind (h.resolveInstance subject) fun x => h.withDefinition fun d => ?_
  split
  · exact h.pure _
  · refine h.bind (h.plain plain_get) fun w => ?_
    split
    · exact h.plain (plain_missing _)
    · refine h.bind (h.plain (plain_fetchAll _ x _ _)) fun ps => ?_
      dsimp only
      split
      · exact h.andThen (h.put _ _) _
      · exact h.pure _

/-! ### Members of the context -/

theorem emit (event payload : Value) : P _ (emit · event payload) := by
  unfold Run.emit
  split
  · refine h.bind (h.plain plain_get) fun w => ?_
    split
    · exact h.call _ _
    · exact h.pure _
  · split
    · exact h.pure _
    · exact h.throw _

theorem callFunction (name : String) (args : List Value) : P _ (callFunction · name args) := by
  refine h.withDefinition fun d => ?_
  split
  · exact h.call _ _
  · exact h.pure _
  · exact h.pure _
  · exact h.throw _

theorem callField (name : Value) (args : List Value) : P _ (Run.call · name args) := by
  unfold Run.call
  split
  · exact h.callFunction _ _
  · split
    · exact h.withDefinition fun _ => h.throw _
    · exact h.throw _

theorem operate (m : Member) (args : List Value) : P _ (operate · m args) := by
  unfold Run.operate
  split
  · exact h.andThen h.instances _
  · exact h.andThen (h.create _ _) _
  · exact h.andThen (h.getInstance _) _
  · exact h.andThen (h.put _ _) _
  · exact h.andThen (h.delete _) _
  · exact h.callField _ _
  · exact h.emit _ _
  · exact h.emit _ _
  · exact h.withResult _ fun _ => h.cascade _ _
  · exact h.withResult _ fun _ => h.search _ _
  · exact h.andThen (h.enrich _) _
  · refine h.bind (h.plain (plain_memberValue? _)) fun value => ?_
    split
    · exact h.throw _
    · exact h.throw _

theorem callMember (name : String) (args : List Value) : P _ (callMember · name args) := by
  refine h.withDefinition fun d => h.withResult _ fun what => ?_
  split
  · exact h.callFunction _ _
  · exact h.operate _ _

/-! ### Scripts -/

theorem act (payload : Value) (a : Action) : P _ (act · payload a) := by
  cases a with
  | patch data => exact h.withResult _ fun _ => h.callMember _ _
  | stored key => exact h.plain (plain_readStored key)
  | identity => exact h.bind (h.plain plain_get) fun _ => h.pure _
  | _ => exact h.callMember _ _

theorem actThrough (context payload : Value) (a : Action) :
    P _ (actThrough · context payload a) := by
  unfold Run.actThrough
  split
  · exact h.act _ _
  · exact h.pure _
  · exact h.throw _
  · exact h.throw _
  · exact h.throw _
  · exact h.throw _

theorem actAll (context payload : Value) (as : List Action) :
    P _ (actAll · context payload as) := by
  induction as with
  | nil => exact h.pure _
  | cons a as ih =>
      refine h.bind (h.actThrough context payload a) fun result => ?_
      exact h.bind (h.plain (plain_note _)) fun _ => ih

/-- **Running a handler is put together from these operations.** -/
theorem handle (number : Nat) (args : List Value) : P _ (handle · number args) := by
  refine h.bind (h.plain plain_get) fun w => ?_
  refine h.bind (h.plain (plain_countCall number)) fun n => ?_
  refine h.bind (h.plain (plain_note _)) fun _ => ?_
  refine h.bind (h.actAll _ _ _) fun _ => ?_
  split
  · exact h.throw _
  · exact h.pure _

end Run.Composes

/-! ## Calls -/

namespace Run

variable {Q : (α : Type) → Run α → Prop}
  (h : Composes fun α op =>
    ∀ invoke : Invoke, (∀ f args, Q Value (invoke f args)) → Q α (op invoke))
  (hplain : ∀ (α : Type) (x : Run α), x.Plain → Q α x)

include h hplain

/-- A nested call is a call one level less deep, so the depth carries the induction. -/
theorem Composes.invokeWithin (depth : Nat) (f : Callable) (args : List Value) :
    Q Value (Run.invokeWithin depth f args) := by
  induction depth generalizing f args with
  | zero =>
      cases f
      case handler => exact hplain _ _ (plain_throw _)
      all_goals exact hplain _ _ (plain_apply _ _)
  | succ depth ih =>
      cases f
      case handler => exact h.handle _ _ _ ih
      all_goals exact hplain _ _ (plain_apply _ _)

/-- **A property that handlers have if the functions that they call have it** is a property of every
call of a function. -/
theorem Composes.invoke (f : Callable) (args : List Value) : Q Value (Run.invoke f args) := by
  have hwithin := h.invokeWithin hplain
  have hbind := h.bind (h.plain plain_get) fun w => fun _ _ => hwithin (nesting w.scripts) f args
  exact hbind (Run.invokeWithin 0) (hwithin 0)

end Run

end Entity
