import Entity.Lifecycle.Binding
import Entity.Lifecycle.Handlers
import Mathlib.Tactic.Common

/-!
# Executing operations on the world

What an operation answers and which world it leaves, as an equation for every way of putting
operations together and for every operation on instances.  Main statements: creating, putting and
deleting make one change of the storage and then go on as the event that they fire; an operation
that is refused leaves the world as it was.
-/

namespace Entity

/-- The runtime of the world is bound to a storage and in a phase in which instances can be read
and written. -/
def World.Serves (w : World) (i : Nat) : Prop :=
  w.runtime.storage = some i ∧ w.runtime.phase ∈ Run.usablePhases

namespace Run

variable {α β : Type}

/-! ## Putting operations together -/

/-- What a computation answers that starts in a world, and the world that it leaves. -/
def exec (x : Run α) (w : World) : Except Failure α × World := x.run w

@[simp] theorem exec_pure (a : α) (w : World) : exec (pure a) w = (.ok a, w) := rfl

@[simp] theorem exec_throw (e : Failure) (w : World) :
    exec (throw e : Run α) w = (.error e, w) := rfl

@[simp] theorem exec_get (w : World) : exec get w = (.ok w, w) := rfl

@[simp] theorem exec_modify (f : World → World) (w : World) :
    exec (modify f) w = (.ok (), f w) := rfl

/-- A sequence goes on with the answer of its first part, or ends with its failure. -/
theorem exec_bind (x : Run α) (f : α → Run β) (w : World) :
    exec (x >>= f) w = match exec x w with
      | (.ok a, w') => exec (f a) w'
      | (.error e, w') => (.error e, w') := by
  simp only [exec, bind, ExceptT.bind, ExceptT.mk, ExceptT.run, StateT.bind]
  rcases x w with ⟨r, w'⟩
  cases r <;> rfl

/-- A computation whose failures are handled goes on with the handling of its failure. -/
theorem exec_tryCatch (x : Run α) (handle : Failure → Run α) (w : World) :
    exec (tryCatch x handle) w = match exec x w with
      | (.ok a, w') => (.ok a, w')
      | (.error e, w') => exec (handle e) w' := by
  simp only [exec, tryCatch, tryCatchThe, MonadExceptOf.tryCatch, ExceptT.tryCatch, ExceptT.mk,
    ExceptT.run, bind, StateT.bind]
  rcases x w with ⟨r, w'⟩
  cases r <;> rfl

@[simp] theorem exec_map (f : α → β) (x : Run α) (w : World) :
    exec (f <$> x) w = ((exec x w).1.map f, (exec x w).2) := by
  rw [← bind_pure_comp, exec_bind]
  rcases exec x w with ⟨r, w'⟩
  cases r <;> rfl

theorem exec_bind_ok {x : Run α} {a : α} {w w' : World} (h : exec x w = (.ok a, w'))
    (f : α → Run β) : exec (x >>= f) w = exec (f a) w' := by
  rw [exec_bind, h]

theorem exec_bind_error {x : Run α} {e : Failure} {w w' : World} (h : exec x w = (.error e, w'))
    (f : α → Run β) : exec (x >>= f) w = (.error e, w') := by
  rw [exec_bind, h]

@[simp] theorem exec_ofResult (r : Except Failure α) (w : World) :
    exec (ofResult r) w = (r, w) := by
  cases r <;> rfl

@[simp] theorem exec_definition (w : World) : exec definition w = (.ok w.definition, w) := rfl

@[simp] theorem exec_readKey (i : Nat) (key : String) (w : World) :
    exec (readKey i key) w = (.ok ((w.store i).read key), w) := rfl

@[simp] theorem exec_writeKey (i : Nat) (key : String) (v : Value) (w : World) :
    exec (writeKey i key v) w = (.ok (), w.changeStore i (Entries.put key v)) := rfl

@[simp] theorem exec_removeKey (i : Nat) (key : String) (w : World) :
    exec (removeKey i key) w = (.ok (), w.changeStore i (Entries.erase key)) := rfl

@[simp] theorem exec_enter (phase : Phase) (w : World) :
    exec (enter phase) w = (.ok (), w.changeRuntime ({ · with phase })) := rfl

/-! ## Reading instances -/

/-- While the runtime serves a storage, an operation on instances gets its number. -/
theorem exec_usable {w : World} {i : Nat} (hw : w.Serves i) (operation : Operation) :
    exec (usable operation usablePhases) w = (.ok i, w) := by
  obtain ⟨hs, hp⟩ := hw
  simp [usable, exec_bind, hs, hp]

/-- Otherwise it is refused. -/
theorem exec_usable_of_not_serves {w : World} (hw : ∀ i, ¬ w.Serves i) (operation : Operation) :
    exec (usable operation usablePhases) w =
      (.error (.wrongPhase operation w.runtime.phase w.runtime.definition.type), w) := by
  cases hs : w.runtime.storage with
  | none => simp [usable, exec_bind, hs]
  | some i =>
      have hp : w.runtime.phase ∉ usablePhases := fun hp => hw i ⟨hs, hp⟩
      simp [usable, exec_bind, hs, hp]

/-- The instance that a storage holds under a key. -/
def stored? (d : Definition) (s : Storage) (key : String) : Option Instance :=
  if isReserved key then none
  else match s.read key with
    | .map payload => some (d.instanceOf key payload)
    | _ => none

theorem exec_instanceAt (i : Nat) (key : String) (w : World) :
    exec (instanceAt i key) w = (.ok (stored? w.definition (w.store i) key), w) := by
  unfold instanceAt stored?
  split
  · rfl
  · rw [exec_bind, exec_get]
    dsimp only
    split <;> simp_all

theorem exec_getInstance {w : World} {i : Nat} (hw : w.Serves i) (key : String) :
    exec (getInstance (.text key)) w = (.ok (stored? w.definition (w.store i) key), w) := by
  simp [getInstance, exec_bind, exec_usable hw, identityText, exec_instanceAt]

theorem exec_instances {w : World} {i : Nat} (hw : w.Serves i) :
    exec instances w = (.ok (instancesOf w.definition (w.store i).sorted), w) := by
  simp [instances, exec_bind, exec_usable hw, Except.map]

/-- Reading an instance leaves the world as it is. -/
theorem exec_getInstance_world (id : Value) (w : World) : (exec (getInstance id) w).2 = w := by
  by_cases hw : ∃ i, w.Serves i
  · obtain ⟨i, hw⟩ := hw
    rw [getInstance, exec_bind_ok (exec_usable hw .get), exec_bind, exec_ofResult]
    cases identityText id with
    | ok key => simp [exec_instanceAt]
    | error e => rfl
  · rw [getInstance, exec_bind_error (exec_usable_of_not_serves (not_exists.mp hw) .get)]

/-- Listing the instances leaves the world as it is. -/
theorem exec_instances_world (w : World) : (exec instances w).2 = w := by
  by_cases hw : ∃ i, w.Serves i
  · obtain ⟨i, hw⟩ := hw
    rw [exec_instances hw]
  · rw [instances, exec_bind_error (exec_usable_of_not_serves (not_exists.mp hw) .list)]

/-! ## Events -/

/-- Without a handler an event does nothing. -/
theorem exec_fire_of_none {w : World} {event : String}
    (h : Entries.get? event w.definition.events = none) (invoke : Invoke) (payload : Value) :
    exec (fire invoke event payload) w = (.ok .null, w) := by
  simp [fire, exec_bind, h]

end Run

/-! ## Writing instances -/

/-- The instance that a definition makes of data under a key. -/
def Definition.made (d : Definition) (key : String) (es : Entries String Value) : Instance :=
  d.instanceOf key (Entries.put Storage.versionKey (.int d.version) es)

/-- The world after the runtime's definition has written data under a key. -/
def World.storing (w : World) (i : Nat) (key : String) (es : Entries String Value) : World :=
  w.changeStore i
    (Entries.put key (.map (Entries.put Storage.versionKey (.int w.definition.version) es)))

/-- The world after a key was removed. -/
def World.removing (w : World) (i : Nat) (key : String) : World :=
  w.changeStore i (Entries.erase key)

namespace Run

theorem payloadOf_map (d : Definition) (es : Entries String Value) :
    d.payloadOf (.map es) = .ok (Entries.put Storage.versionKey (.int d.version) es) := rfl

/-- Only a mapping is data. -/
theorem payloadOf_cases (d : Definition) (data : Value) :
    (∃ es, data = .map es) ∨ ∃ e, d.payloadOf data = .error e := by
  cases data
  case map es => exact Or.inl ⟨es, rfl⟩
  all_goals exact Or.inr ⟨_, rfl⟩

/-- Creating writes the data and then fires the event of creation. -/
theorem exec_create {w : World} {i : Nat} {id : Value} {key : String} (hw : w.Serves i)
    (hid : storableIdentity id = .ok key) (invoke : Invoke) (es : Entries String Value) :
    exec (create invoke id (.map es)) w =
      exec ((fun _ => w.definition.made key es) <$>
        fire invoke (w.definition.eventName "Created") (w.definition.made key es).toValue)
        (w.storing i key es) := by
  rw [create, exec_bind_ok (exec_usable hw .create), hid, exec_bind, exec_ofResult]
  simp only [exec_bind, exec_definition, payloadOf_map, exec_ofResult, exec_writeKey]
  rw [← bind_pure_comp, exec_bind]
  rfl

/-- Data can be written, or the runtime serves no storage, or nothing may be stored under the
identity, or the data is no mapping. -/
theorem write_cases (w : World) (id data : Value) :
    (∃ i key es, w.Serves i ∧ storableIdentity id = .ok key ∧ data = .map es) ∨
      (∀ i, ¬ w.Serves i) ∨ (∃ i e, w.Serves i ∧ storableIdentity id = .error e) ∨
      ∃ i key e, w.Serves i ∧ storableIdentity id = .ok key ∧
        w.definition.payloadOf data = .error e := by
  by_cases hw : ∃ i, w.Serves i
  · obtain ⟨i, hw⟩ := hw
    cases hid : storableIdentity id with
    | error e => exact Or.inr (Or.inr (Or.inl ⟨i, e, hw, rfl⟩))
    | ok key =>
        rcases payloadOf_cases w.definition data with ⟨es, rfl⟩ | ⟨e, he⟩
        · exact Or.inl ⟨i, key, es, hw, rfl, rfl⟩
        · exact Or.inr (Or.inr (Or.inr ⟨i, key, e, hw, rfl, he⟩))
  · exact Or.inr (Or.inl (not_exists.mp hw))

/-- Creating is refused, and then nothing changes, unless the data can be written. -/
theorem create_cases (invoke : Invoke) (id data : Value) (w : World) :
    (∃ i key es, w.Serves i ∧ storableIdentity id = .ok key ∧ data = .map es) ∨
      ∃ e, exec (create invoke id data) w = (.error e, w) := by
  rcases write_cases w id data with h | hno | ⟨i, e, hw, hid⟩ | ⟨i, key, e, hw, hid, he⟩
  · exact Or.inl h
  · right
    exact ⟨_, by rw [create, exec_bind_error (exec_usable_of_not_serves hno .create)]⟩
  · right
    exact ⟨e, by rw [create, exec_bind_ok (exec_usable hw .create), hid, exec_bind,
      exec_ofResult]⟩
  · right
    refine ⟨e, ?_⟩
    rw [create, exec_bind_ok (exec_usable hw .create), hid]
    simp only [exec_bind, exec_ofResult, exec_definition, he]

/-- Putting writes the data and then fires the event of a change. -/
theorem exec_put {w : World} {i : Nat} {id : Value} {key : String} (hw : w.Serves i)
    (hid : storableIdentity id = .ok key) (invoke : Invoke) (es : Entries String Value) :
    exec (put invoke id (.map es)) w =
      exec ((fun _ => w.definition.made key es) <$>
        fire invoke (w.definition.eventName "Updated")
          (Change.toValue ⟨stored? w.definition (w.store i) key, w.definition.made key es⟩))
        (w.storing i key es) := by
  rw [put, exec_bind_ok (exec_usable hw .put), hid, exec_bind, exec_ofResult]
  dsimp only
  rw [exec_bind_ok (exec_instanceAt i key w)]
  simp only [exec_bind, exec_definition, payloadOf_map, exec_ofResult, exec_writeKey]
  rw [← bind_pure_comp, exec_bind]
  rfl

/-- Putting is refused, and then nothing changes, in the same cases as creating. -/
theorem put_cases (invoke : Invoke) (id data : Value) (w : World) :
    (∃ i key es, w.Serves i ∧ storableIdentity id = .ok key ∧ data = .map es) ∨
      ∃ e, exec (put invoke id data) w = (.error e, w) := by
  rcases write_cases w id data with h | hno | ⟨i, e, hw, hid⟩ | ⟨i, key, e, hw, hid, he⟩
  · exact Or.inl h
  · right
    exact ⟨_, by rw [put, exec_bind_error (exec_usable_of_not_serves hno .put)]⟩
  · right
    exact ⟨e, by rw [put, exec_bind_ok (exec_usable hw .put), hid, exec_bind, exec_ofResult]⟩
  · right
    refine ⟨e, ?_⟩
    rw [put, exec_bind_ok (exec_usable hw .put), hid, exec_bind, exec_ofResult]
    dsimp only
    -- the instance that is there is read before the data is looked at
    rw [exec_bind_ok (exec_instanceAt i key w)]
    simp only [exec_bind, exec_ofResult, exec_definition, he]

/-- Deleting an instance that is there removes it and then fires the event of removal. -/
theorem exec_delete {w : World} {i : Nat} {id : Value} {key : String} {existing : Instance}
    (hw : w.Serves i) (hid : identityText id = .ok key)
    (hs : stored? w.definition (w.store i) key = some existing) (invoke : Invoke) :
    exec (delete invoke id) w =
      exec ((fun _ => true) <$>
        fire invoke (w.definition.eventName "Deleted") existing.toValue) (w.removing i key) := by
  rw [delete, exec_bind_ok (exec_usable hw .delete), hid, exec_bind, exec_ofResult]
  dsimp only
  rw [exec_bind_ok (exec_instanceAt i key w), hs]
  simp only [exec_bind, exec_definition, exec_removeKey]
  rw [← bind_pure_comp, exec_bind]
  rfl

/-- Deleting an instance that is not there answers so and changes nothing. -/
theorem exec_delete_of_none {w : World} {i : Nat} {id : Value} {key : String} (hw : w.Serves i)
    (hid : identityText id = .ok key) (hs : stored? w.definition (w.store i) key = none)
    (invoke : Invoke) : exec (delete invoke id) w = (.ok false, w) := by
  rw [delete, exec_bind_ok (exec_usable hw .delete), hid, exec_bind, exec_ofResult]
  dsimp only
  rw [exec_bind_ok (exec_instanceAt i key w), hs]
  rfl

/-- Deleting is refused, and then nothing changes, unless the runtime serves a storage and the
identity is a text. -/
theorem delete_cases (invoke : Invoke) (id : Value) (w : World) :
    (∃ i key, w.Serves i ∧ identityText id = .ok key) ∨
      ∃ e, exec (delete invoke id) w = (.error e, w) := by
  by_cases hw : ∃ i, w.Serves i
  · obtain ⟨i, hw⟩ := hw
    cases hid : identityText id with
    | error e =>
        right
        exact ⟨e, by rw [delete, exec_bind_ok (exec_usable hw .delete), hid, exec_bind,
          exec_ofResult]⟩
    | ok key => exact Or.inl ⟨i, key, hw, rfl⟩
  · right
    exact ⟨_, by rw [delete, exec_bind_error
      (exec_usable_of_not_serves (not_exists.mp hw) .delete)]⟩

end Run

end Entity
