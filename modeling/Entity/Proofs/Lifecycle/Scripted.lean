import Entity.Proofs.Lifecycle.Composition

/-!
# Scripted handlers work through the operations

The hooks, the members of the context, the actions of scripts and at last the calls of functions are
sequences of operations on instances and of steps that touch neither the runtime nor a
storage.  Main statement: this holds of every call of a function, however deep handlers nest.
-/

namespace Entity.Run

variable {i : Nat}

/-! ## Services -/

theorem aside_fetchAll (answer : Enrichment → Entries String String → Except Failure Value)
    (x : Instance) (es : List Enrichment) (ps : Payloads) : (fetchAll answer x ps es).Aside :=
  (plain_fetchAll answer x es ps).aside

theorem aside_cascadeAnswer (x : Instance) (field : String) : (cascadeAnswer x field).Aside :=
  (plain_cascadeAnswer x field).aside

/-! ## Hooks -/

/-- Looking up what a hook is given leaves the world as it is. -/
theorem exec_resolveInstance_world (v : Value) (w : World) :
    (exec (resolveInstance v) w).2 = w := by
  unfold resolveInstance
  split
  · rfl
  · have hworld := exec_getInstance_world v w
    rw [exec_bind]
    rcases hget : exec (getInstance v) w with ⟨found, w'⟩
    rw [hget] at hworld
    obtain rfl : w' = w := hworld
    cases found with
    | error e => rfl
    | ok found => cases found <;> rfl

theorem aside_resolveInstance (v : Value) : (resolveInstance v).Aside := by
  intro w
  rw [exec_resolveInstance_world]
  exact World.Untouched.refl w

/-- Whatever is put together from operations on instances works through them. -/
theorem composes_mediated :
    Composes fun _ op => ∀ invoke : Invoke, invoke.Mediated i → (op invoke).Mediated i where
  plain hx _ _ := hx.aside.mediated
  bind hop hf invoke hi := (hop invoke hi).bind fun a => hf a invoke hi
  call f args _ hi := hi f args
  getInstance id _ _ := mediated_getInstance id
  instances _ _ := mediated_instances
  create id data _ hi := mediated_create hi id data
  put id data _ hi := mediated_put hi id data
  delete id _ hi := mediated_delete hi id

theorem mediated_cascade {invoke : Invoke} (hi : invoke.Mediated i) (subject : Value)
    (field : String) : (cascade invoke subject field).Mediated i :=
  composes_mediated.cascade subject field invoke hi

theorem mediated_enrich {invoke : Invoke} (hi : invoke.Mediated i) (subject : Value) :
    (enrich invoke subject).Mediated i :=
  composes_mediated.enrich subject invoke hi

/-! ## Functions -/

/-- **Scripted handlers work through the operations only.** -/
theorem mediated_invoke : invoke.Mediated i :=
  Composes.invoke (Q := fun _ x => x.Mediated i) composes_mediated
    fun _ _ hx => hx.aside.mediated

end Entity.Run
