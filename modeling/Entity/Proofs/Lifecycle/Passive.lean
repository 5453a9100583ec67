import Entity.Lifecycle.Timetable
import Entity.Proofs.Lifecycle.Migration
import Entity.Proofs.Lifecycle.Scripted
import Entity.Proofs.Serialized.Inert

/-!
# Definitions that are rebuilt run nothing

Functions are called through one parameter of the operations of a runtime.  An operation calls none
when it does not matter what stands there.  Main statement: a definition that is rebuilt from a
text, or from a value without functions, has none, and whatever is done with a runtime of it, no
function is called; calling a field by name answers what is left to do.
-/

namespace Entity

open Run

/-! ## Operations that call nothing -/

/-- From a world, the operation has the same answer and leaves the same world however functions are
called: it calls none. -/
def Run.CallsNothing {α : Type} (op : Invoke → Run α) (w : World) : Prop :=
  ∀ invoke invoke' : Invoke, exec (op invoke) w = exec (op invoke') w

/-- The computation leaves the runtime as it is. -/
def Run.Steady {α : Type} (x : Run α) : Prop := ∀ w, (exec x w).2.runtime = w.runtime

/-- The operation calls nothing for any definition without functions. -/
def Run.Unaided {α : Type} (op : Invoke → Run α) : Prop :=
  ∀ w : World, w.definition.Inert → CallsNothing op w

namespace Run

variable {α β : Type}

theorem steady_pure (a : α) : Steady (pure a) := fun _ => rfl

theorem steady_throw (e : Failure) : Steady (throw e : Run α) := fun _ => rfl

theorem steady_get : Steady get := fun _ => rfl

theorem steady_definition : Steady definition := fun _ => rfl

/-- What touches neither the runtime nor a storage leaves the runtime as it is. -/
theorem Aside.steady {x : Run α} (h : x.Aside) : Steady x := fun w => (h w).runtime

theorem steady_ofResult (r : Except Failure α) : Steady (ofResult r) := by
  intro w
  rw [exec_ofResult]

theorem Steady.bind {x : Run α} (hx : Steady x) {f : α → Run β} (hf : ∀ a, Steady (f a)) :
    Steady (x >>= f) := by
  intro w
  have hw := hx w
  rw [exec_bind]
  rcases hr : exec x w with ⟨r, w'⟩
  rw [hr] at hw
  cases r with
  | ok a => exact (hf a w').trans hw
  | error e => exact hw

/-- What takes no functions calls none. -/
theorem unaided_const (x : Run α) : Unaided fun _ => x := fun _ _ _ _ => rfl

/-- A first part that takes no functions and leaves the runtime as it is. -/
theorem Steady.before {x : Run α} (hx : Steady x) {f : α → Invoke → Run β}
    (hf : ∀ a, Unaided (f a)) : Unaided fun invoke => x >>= fun a => f a invoke := by
  intro w hw invoke invoke'
  have hruntime := hx w
  simp only [exec_bind]
  rcases hr : exec x w with ⟨r, w'⟩
  rw [hr] at hruntime
  cases r with
  | ok a =>
      have hd : w'.definition = w.definition := congrArg Runtime.definition hruntime
      exact hf a w' (hd ▸ hw) invoke invoke'
  | error e => rfl

/-- A last part that takes no functions. -/
theorem Unaided.andThen {op : Invoke → Run α} (h : Unaided op) (g : α → Run β) :
    Unaided fun invoke => op invoke >>= g := by
  intro w hw invoke invoke'
  simp only [exec_bind]
  rw [h w hw invoke invoke']

/-! ### Instances -/

theorem steady_usable (operation : Operation) (phases : List Phase) :
    Steady (usable operation phases) := by
  refine steady_get.bind fun w => ?_
  dsimp only
  split
  · split
    · exact steady_pure _
    · exact steady_throw _
  · exact steady_throw _

theorem steady_instanceAt (i : Nat) (key : String) : Steady (instanceAt i key) := by
  intro w
  rw [exec_instanceAt]

theorem exec_fire_of_inert {w : World} (hw : w.definition.Inert) (invoke : Invoke)
    (event : String) (payload : Value) : exec (fire invoke event payload) w = (.ok .null, w) := by
  apply exec_fire_of_none
  rw [hw.events]
  rfl

theorem unaided_fire (event : String) (payload : Value) : Unaided (fire · event payload) := by
  intro w hw invoke invoke'
  rw [exec_fire_of_inert hw, exec_fire_of_inert hw]

theorem unaided_create (id data : Value) : Unaided (create · id data) := by
  refine (steady_usable _ _).before fun i => ?_
  refine (steady_ofResult _).before fun key => ?_
  refine steady_definition.before fun d => ?_
  refine (steady_ofResult _).before fun payload => ?_
  refine Steady.before (fun _ => rfl) fun _ => ?_
  exact (unaided_fire _ _).andThen _

theorem unaided_put (id data : Value) : Unaided (put · id data) := by
  refine (steady_usable _ _).before fun i => ?_
  refine (steady_ofResult _).before fun key => ?_
  refine (steady_instanceAt i key).before fun previous => ?_
  refine steady_definition.before fun d => ?_
  refine (steady_ofResult _).before fun payload => ?_
  refine Steady.before (fun _ => rfl) fun _ => ?_
  exact (unaided_fire _ _).andThen _

theorem unaided_delete (id : Value) : Unaided (delete · id) := by
  refine (steady_usable _ _).before fun i => ?_
  refine (steady_ofResult _).before fun key => ?_
  refine (steady_instanceAt i key).before fun existing => ?_
  cases existing with
  | none => exact unaided_const _
  | some existing =>
      refine Steady.before (fun _ => rfl) fun _ => ?_
      refine steady_definition.before fun d => ?_
      exact (unaided_fire _ _).andThen _

theorem unaided_emit (event payload : Value) : Unaided (emit · event payload) := by
  cases event with
  | text name => exact unaided_fire name payload
  | _ => exact unaided_const _

/-! ### Hooks -/

theorem unaided_cascade (subject : Value) (field : String) :
    Unaided (cascade · subject field) := by
  refine (aside_resolveInstance subject).steady.before fun x => ?_
  refine (aside_cascadeAnswer x field).steady.before fun answer => ?_
  cases answer with
  | none => exact unaided_const _
  | some v =>
      cases v with
      | null => exact unaided_const _
      | _ => exact (unaided_put _ _).andThen _

theorem unaided_enrich (subject : Value) : Unaided (enrich · subject) := by
  refine (aside_resolveInstance subject).steady.before fun x => ?_
  refine steady_definition.before fun d => ?_
  by_cases hnone : d.enrichments.isEmpty
  · simp only [hnone, if_true]
    exact unaided_const _
  · simp only [hnone]
    refine steady_get.before fun w => ?_
    cases w.services.fetch with
    | none => exact unaided_const _
    | some answer =>
        refine (aside_fetchAll answer x _ _).steady.before fun ps => ?_
        by_cases hempty : (d.synced ps).isEmpty
        · simp only [hempty]
          exact unaided_const _
        · simp only [hempty]
          exact (unaided_put _ _).andThen _

/-! ### Schedules -/

theorem timed?_of_inert {d : Definition} (hd : d.Inert) (name : String) :
    d.timed? name = none := by
  rw [Definition.timed?, hd.schedules, hd.crons]
  rfl

theorem unaided_runSchedule (name : String) : Unaided (runSchedule · name) := by
  have hrun : ∀ {w : World}, w.definition.Inert → ∀ invoke, exec (runSchedule invoke name) w =
      (.error (.notFound .schedule name (some w.definition.type)), w) := by
    intro w hw invoke
    rw [runSchedule, exec_bind, exec_get]
    dsimp only
    rw [timed?_of_inert hw]
    rfl
  intro w hw invoke invoke'
  rw [hrun hw, hrun hw]

theorem due_of_inert {d : Definition} (hd : d.Inert) (last : LastRun) (now : Moment) :
    d.due last now = pure [] := by
  simp only [Definition.due, Definition.dueSchedules, Definition.dueCrons, hd.schedules, hd.crons]
  rfl

/-- Nothing is ever due. -/
theorem exec_tick_of_inert {w : World} (hw : w.definition.Inert) (invoke : Invoke)
    (last : LastRun) (now : Moment) : exec (tick invoke last now) w = (.ok [], w) := by
  rw [tick, exec_bind, exec_definition]
  dsimp only
  rw [due_of_inert hw]
  -- no warning is added either
  have hwarn : { w with warnings := w.warnings ++ [] } = w := by rw [List.append_nil]
  exact congrArg (Prod.mk (Except.ok [])) hwarn

/-! ### Migrations -/

theorem pending_of_inert {d : Definition} (hd : d.Inert) (stored : Int) :
    d.pending stored = [] := by
  rw [Definition.pending, hd.migrations]
  simp [ascending, Entries.keys]

/-- A bind runs no migration: it is refused, or it records the version at once. -/
theorem exec_bindTo_of_inert {w : World} (hw : w.definition.Inert) (invoke : Invoke) (i : Nat) :
    exec (bindTo invoke i) w = match w.readVersion i with
      | .error e => (.error e, w.attaching i)
      | .ok stored =>
        if w.definition.version < stored then
          (.error (.storedNewer stored w.definition.version w.definition.type), w.refusing)
        else (.ok (), (w.migrating i).binding i w.definition) := by
  rw [exec_bindTo_eq]
  cases w.readVersion i with
  | error e => rfl
  | ok stored =>
      dsimp only
      rw [pending_of_inert hw]
      split
      · rfl
      · split <;> rfl

theorem unaided_bindTo (i : Nat) : Unaided (bindTo · i) := by
  intro w hw invoke invoke'
  rw [exec_bindTo_of_inert hw, exec_bindTo_of_inert hw]

theorem migrationsRun_bindTo {w : World} (hw : w.definition.Inert) (invoke : Invoke) (i : Nat) :
    (exec (bindTo invoke i) w).2.runtime.migrationsRun = w.runtime.migrationsRun := by
  rw [exec_bindTo_of_inert hw]
  split
  · rfl
  · split <;> rfl

end Run

/-! ## Calls -/

/-- The field can be called: it computes something, or it is generated. -/
def Field.Offered (f : Field) : Prop :=
  f.source = .compute ∧ f.compute.isSome ∨ f.source = .generate

/-- What a call of the field leaves to do: the code of a computation, or a generation. -/
inductive Field.Leaves (f : Field) (name : String) (args : List Value) : Value → Prop
  | execution {text : String} (source : f.source = .compute)
      (compute : f.compute = some (.code text)) :
      Leaves f name args (deferredExecution name text args)
  | generation {g : Generation} (source : f.source = .generate)
      (generation : f.generation = some g) : Leaves f name args (g.deferred name args)

/-- A field that can be called offers code text, or a generation. -/
theorem Field.leaves_of_function? {f : Field} (hcoded : f.Coded) {g : FunctionField}
    (h : f.function? = some g) (name : String) (args : List Value) :
    (∃ text, g = .computation (.code text) ∧
      f.Leaves name args (deferredExecution name text args)) ∨
      ∃ gen, g = .generation gen ∧ f.Leaves name args (gen.deferred name args) := by
  unfold Field.function? at h
  split at h
  · rename_i c hsource hcompute
    cases h
    obtain ⟨text, rfl⟩ := hcoded.compute c hcompute
    exact Or.inl ⟨text, rfl, .execution hsource hcompute⟩
  · rename_i gen hsource hgeneration
    cases h
    exact Or.inr ⟨gen, rfl, .generation hsource hgeneration⟩
  · cases h

theorem Field.isSome_function?_iff {P : Generation → Prop} {f : Field} (h : f.Carries P) :
    f.function?.isSome ↔ f.Offered := by
  unfold Field.function? Field.Offered
  have hgeneration := h.generation
  cases hsource : f.source <;> cases hcompute : f.compute <;> cases hgen : f.generation <;>
    simp_all

theorem Definition.mem_functions {d : Definition} {name : String} {g : FunctionField} :
    (name, g) ∈ d.functions ↔ ∃ f, (name, f) ∈ d.fields ∧ f.function? = some g := by
  rw [Definition.functions, List.mem_filterMap]
  constructor
  · rintro ⟨⟨key, f⟩, hf, hg⟩
    obtain ⟨g', hg', heq⟩ := Option.map_eq_some_iff.mp hg
    cases heq
    exact ⟨f, hf, hg'⟩
  · rintro ⟨f, hf, hg⟩
    exact ⟨(name, f), hf, by simp [hg]⟩

/-- Calling a field by name answers what it leaves to do, or that there is no function of the
name. -/
theorem Run.exec_callFunction_of_inert {w : World} (hw : w.definition.Inert)
    (hcarries : ∀ e ∈ w.definition.fields, e.2.Throughout (Field.Carries fun _ => True))
    (invoke : Invoke) (name : String) (args : List Value) :
    (∃ f v, (name, f) ∈ w.definition.fields ∧ f.Offered ∧ f.Leaves name args v ∧
      exec (callFunction invoke name args) w = (.ok v, w)) ∨
    (∀ f, (name, f) ∈ w.definition.fields → ¬ f.Offered) ∧
      exec (callFunction invoke name args) w =
        (.error (.notFound .function name (some w.definition.type)), w) := by
  rw [callFunction, exec_bind, exec_definition]
  dsimp only
  cases hget : Entries.get? name w.definition.functions with
  | none =>
      refine Or.inr ⟨?_, rfl⟩
      intro f hf hoffered
      have hsome := (Field.isSome_function?_iff (hcarries _ hf).here).mpr hoffered
      obtain ⟨g, hg⟩ := Option.isSome_iff_exists.mp hsome
      have hmem := Definition.mem_functions.mpr ⟨f, hf, hg⟩
      exact Entries.get?_eq_none_iff.mp hget (List.mem_map_of_mem hmem)
  | some g =>
      obtain ⟨f, hf, hg⟩ := Definition.mem_functions.mp (Entries.mem_of_get?_eq_some hget)
      have hoffered := (Field.isSome_function?_iff (hcarries _ hf).here).mp (by simp [hg])
      left
      rcases Field.leaves_of_function? (hw.fields _ hf).here hg name args with
        ⟨text, rfl, hleaves⟩ | ⟨gen, rfl, hleaves⟩
      · exact ⟨f, _, hf, hoffered, hleaves, rfl⟩
      · exact ⟨f, _, hf, hoffered, hleaves, rfl⟩

/-! ## Runtimes -/

/-- Whatever is done with the runtime of the world, no function is called. -/
structure World.Passive (w : World) : Prop where
  bind : ∀ i, CallsNothing (bindTo · i) w
  migrationsRun : ∀ invoke i,
    (exec (bindTo invoke i) w).2.runtime.migrationsRun = w.runtime.migrationsRun
  create : ∀ id data, CallsNothing (create · id data) w
  put : ∀ id data, CallsNothing (put · id data) w
  delete : ∀ id, CallsNothing (delete · id) w
  emit : ∀ event payload, CallsNothing (emit · event payload) w
  cascade : ∀ subject field, CallsNothing (cascade · subject field) w
  enrich : ∀ subject, CallsNothing (enrich · subject) w
  runSchedule : ∀ name, CallsNothing (runSchedule · name) w
  tick : ∀ invoke last now, exec (tick invoke last now) w = (.ok [], w)
  called : ∀ (invoke : Invoke) (name : String) (args : List Value),
    (∃ f v, (name, f) ∈ w.definition.fields ∧ f.Offered ∧ f.Leaves name args v ∧
      exec (call invoke (.text name) args) w = (.ok v, w)) ∨
    (∀ f, (name, f) ∈ w.definition.fields → ¬ f.Offered) ∧
      exec (call invoke (.text name) args) w =
        (.error (.notFound .function name (some w.definition.type)), w)

theorem World.passive_of_inert {w : World} (hw : w.definition.Inert)
    (hcarries : ∀ e ∈ w.definition.fields, e.2.Throughout (Field.Carries fun _ => True)) :
    w.Passive where
  bind i := unaided_bindTo i w hw
  migrationsRun invoke i := migrationsRun_bindTo hw invoke i
  create id data := unaided_create id data w hw
  put id data := unaided_put id data w hw
  delete id := unaided_delete id w hw
  emit event payload := unaided_emit event payload w hw
  cascade subject field := unaided_cascade subject field w hw
  enrich subject := unaided_enrich subject w hw
  runSchedule name := unaided_runSchedule name w hw
  tick := exec_tick_of_inert hw
  called := exec_callFunction_of_inert hw hcarries

/-- What is read from a text is a value without functions. -/
theorem Definition.exists_rebuild_of_rebuildText {text : String} {d : Definition}
    (h : (Definition.rebuildText text).result = .ok d) :
    ∃ v : Value, v.CallableFree ∧ (Definition.rebuild v).result = .ok d := by
  simp only [Definition.rebuildText, Outcome.result_bind, Outcome.result_lift, bind_eq_ok] at h
  obtain ⟨v, hv, h⟩ := h
  exact ⟨v, Json.callableFree_of_ofText hv, h⟩

/-- **Definitions that are rebuilt run nothing.**  A definition that is rebuilt from a text, or from
a value without functions, has code texts in the place of functions and no handlers, and whatever is
done with a runtime of it, no function is called: no migration runs, no event is handled, nothing is
due, and the call of a field answers what it leaves to do, or that there is no such function. -/
theorem Definition.inert_of_rebuild {d : Definition}
    (h : (∃ text, (Definition.rebuildText text).result = .ok d) ∨
      ∃ v : Value, v.CallableFree ∧ (Definition.rebuild v).result = .ok d) :
    d.Inert ∧ ∀ w : World, w.definition = d → w.Passive := by
  have hvalue : ∃ v : Value, v.CallableFree ∧ (Definition.rebuild v).result = .ok d := by
    rcases h with ⟨text, h⟩ | h
    · exact Definition.exists_rebuild_of_rebuildText h
    · exact h
  obtain ⟨v, hv, h⟩ := hvalue
  obtain ⟨raw, hraw, hread⟩ := Definition.exists_read_of_rebuild h
  have hinert := Definition.inert_of_read (allFree_of_rebuiltRaw hv hraw) hread
  refine ⟨hinert, ?_⟩
  rintro w rfl
  exact World.passive_of_inert hinert (Definition.throughout_of_read hread)

namespace Parcel

/-- The serialized form of a definition with a field that has the name of a handler, a link whose
instances are selected, and a nested field that is generated. -/
def data : Entries String Value :=
  [("$type", .text "Parcel"), ("onParcelCreated", .text "drop()"),
    ("fields", .map [
      ("onParcelCreated", .map [("source", .text "compute"), ("code", .text "drop()")]),
      ("stops", .map [("source", .text "link"), ("value", .text "->Stop"),
        ("array", .bool true), ("code", .text "stop.open")]),
      ("notes", .map [("fields", .map [
        ("note", .map [("source", .text "generate"), ("value", .text "Describe it")])])])])]

theorem callableFree_data : (Value.map data).CallableFree := by
  have hflag : (Value.bool true).CallableFree := Value.callableFree_of_leaf rfl rfl
  simp [data, hflag]

/-- What is rebuilt from it. -/
def definition : Definition :=
  ((Definition.rebuild (.map data)).result.toOption).getD default

theorem rebuild_data : (Definition.rebuild (.map data)).result = .ok definition := rfl

/-- A world with an unbound runtime and one empty storage. -/
def world : World := { runtime := { definition }, stores := [[]] }

end Parcel

/-- The general statement for a definition that would drop parcels. -/
theorem Definition.inert_of_rebuild_parcel :
    (Value.map Parcel.data).CallableFree ∧
      (Definition.rebuild (.map Parcel.data)).result = .ok Parcel.definition ∧
      Parcel.definition.Inert ∧ Parcel.world.Passive ∧
      ∀ invoke, (exec (call invoke (.text "onParcelCreated") []) Parcel.world).1 =
        .ok (deferredExecution "onParcelCreated" "drop()" []) := by
  obtain ⟨hinert, hpassive⟩ :=
    Definition.inert_of_rebuild (Or.inr ⟨_, Parcel.callableFree_data, Parcel.rebuild_data⟩)
  exact ⟨Parcel.callableFree_data, Parcel.rebuild_data, hinert, hpassive _ rfl, fun _ => rfl⟩

end Entity
