import Entity.Proofs.Lifecycle.Events
import Entity.Proofs.Lifecycle.FailedBind
import Entity.Proofs.Lifecycle.Filling
import Entity.Proofs.Lifecycle.Nesting

/-!
# When events are fired

Creating, putting and deleting check, read what is there, write, and fire the event of their kind.
Main statement: an operation that is refused, or finds nothing to delete, changes nothing and calls
nothing; any other makes one write and then calls the handler of its event once, in a world that
shows the write.  Handlers make their own calls in worlds of the same kind, through the same
operations.
-/

namespace Entity

open Run

/-! ## Worlds with their storages -/

/-- The storage of the runtime is there. -/
def World.Anchored (w : World) : Prop := ∀ i, w.runtime.storage = some i → i < w.stores.length

/-- Storage `i` has a value under a key, or none, and that is all that was changed. -/
structure World.Wrote (w : World) (i : Nat) (key : String) (v : Option Value) (w' : World) :
    Prop where
  beside : w' = { w with stores := w'.stores }
  length : w'.stores.length = w.stores.length
  there : Entries.get? key (w'.store i) = v
  elsewhere : ∀ j other, j ≠ i ∨ other ≠ key →
    Entries.get? other (w'.store j) = Entries.get? other (w.store j)

/-- Whatever functions do, the operation calls none: it answers, and leaves the world as it is. -/
def Run.Idle {α : Type} (op : Invoke → Run α) (w : World) (r : Except Failure α) : Prop :=
  ∀ invoke, exec (op invoke) w = (r, w)

/-- The operation gets from `w` to `w'` without a call; there it calls the handler once, if there is
one, and answers unless the handler fails. -/
def Run.CallsOnce {α : Type} (op : Invoke → Run α) (w : World) (handler : Option Callable)
    (args : List Value) (w' : World) (a : α) : Prop :=
  ∀ invoke, exec (op invoke) w = match handler with
    | some f => exec ((fun _ => a) <$> invoke f args) w'
    | none => (.ok a, w')

namespace World

variable {w : World} {i : Nat} {id : String}

/-- A change of one key. -/
theorem wrote_changeStore (hi : i < w.stores.length) {v : Option Value} {f : Storage → Storage}
    (hthere : Entries.get? id (f (w.store i)) = v)
    (helse : ∀ other, other ≠ id →
      Entries.get? other (f (w.store i)) = Entries.get? other (w.store i)) :
    w.Wrote i id v (w.changeStore i f) := by
  refine ⟨rfl, length_changeStore w i f, ?_, ?_⟩
  · rw [store_changeStore hi]
    exact hthere
  · intro j other h
    by_cases hj : j = i
    · subst hj
      rw [store_changeStore hi]
      exact helse other (h.resolve_left fun hne => hne rfl)
    · rw [store_changeStore_of_ne hj]

theorem wrote_storing (hi : i < w.stores.length) (es : Entries String Value) :
    w.Wrote i id (some (.map (Entries.put Storage.versionKey (.int w.definition.version) es)))
      (w.storing i id es) := by
  apply wrote_changeStore hi
  · rw [Entries.get?_put, if_pos rfl]
  · intro other hother
    rw [Entries.get?_put, if_neg (Ne.symm hother)]

theorem wrote_removing (hi : i < w.stores.length) : w.Wrote i id none (w.removing i id) := by
  apply wrote_changeStore hi
  · rw [Entries.get?_erase, if_pos rfl]
  · intro other hother
    rw [Entries.get?_erase, if_neg (Ne.symm hother)]

/-- What was written is what is there. -/
theorem exec_getInstance_storing (hw : w.Serves i) (hi : i < w.stores.length)
    (hid : isReserved id = false) (es : Entries String Value) :
    exec (getInstance (.text id)) (w.storing i id es) =
      (.ok (some (w.definition.made id es)), w.storing i id es) := by
  have hserves : (w.storing i id es).Serves i := hw.congr rfl
  rw [exec_getInstance hserves, storing, store_changeStore hi, stored?_put hid]
  rfl

/-- What was removed is not there. -/
theorem exec_getInstance_removing (hw : w.Serves i) (hi : i < w.stores.length) :
    exec (getInstance (.text id)) (w.removing i id) = (.ok none, w.removing i id) := by
  have hserves : (w.removing i id).Serves i := hw.congr rfl
  have hread : Storage.read (Entries.erase id (w.store i)) id = .null := by
    rw [Storage.read, Value.lookup, Entries.get?_erase, if_pos rfl]
    rfl
  have hnone : stored? w.definition (Entries.erase id (w.store i)) id = none := by
    rw [stored?, hread]
    exact ite_self _
  rw [exec_getInstance hserves, removing, store_changeStore hi]
  exact congrArg (fun x => (Except.ok x, w.removing i id)) hnone

end World

namespace Run

/-- What goes on as the event does calls its handler once. -/
theorem callsOnce_of_answer {α : Type} {op : Invoke → Run α} {w w' : World}
    {handler : Option Callable} {args : List Value} {a : α}
    (h : ∀ invoke, exec (op invoke) w = exec ((fun _ => a) <$> answer invoke handler args) w') :
    CallsOnce op w handler args w' a := by
  intro invoke
  rw [h]
  cases handler <;> rfl

theorem storableIdentity_text {id : String} (hid : id ≠ "") (hr : isReserved id = false) :
    storableIdentity (.text id) = .ok id := by
  have hfalsy : (Value.text id).isFalsy = false := by simpa [Value.isFalsy] using hid
  rw [storableIdentity, hfalsy]
  simp [identityText, hr, bind, Except.bind]

theorem storableIdentity_text_error {id : String} (hid : id = "" ∨ isReserved id = true) :
    storableIdentity (.text id) = .error (.badInstanceId (Value.text id).quoted) := by
  rcases hid with rfl | hr
  · rfl
  · unfold storableIdentity
    split
    · rfl
    · simp [identityText, hr, bind, Except.bind]

end Run

/-! ## The events of the lifecycle -/

/-- What creating, putting and deleting under an identity do in a world.  The handlers of their
events are those that the definition holds under the names of these events. -/
structure World.Exact (w : World) (id : String) (es : Entries String Value) : Prop where
  unusable : w.runtime.phase ∉ usablePhases ∨ w.runtime.storage = none → w.Unusable
  unnamed : ∀ i, w.Serves i → id = "" ∨ isReserved id = true →
    Idle (create · (.text id) (.map es)) w (.error (.badInstanceId (Value.text id).quoted)) ∧
      Idle (put · (.text id) (.map es)) w (.error (.badInstanceId (Value.text id).quoted))
  /-- There is nothing to delete. -/
  absent : exec (getInstance (.text id)) w = (.ok none, w) →
    Idle (delete · (.text id)) w (.ok false)
  created : ∀ i, w.Serves i → id ≠ "" → isReserved id = false → ∃ x w',
    w.Wrote i id (some (.map (Entries.put Storage.versionKey (.int w.definition.version) es))) w' ∧
      exec (getInstance (.text id)) w' = (.ok (some x), w') ∧
      CallsOnce (create · (.text id) (.map es)) w
        (Entries.get? (w.definition.eventName "Created") w.definition.events)
        [x.toValue, w.hooks] w' x
  updated : ∀ i, w.Serves i → id ≠ "" → isReserved id = false → ∃ previous x w',
    exec (getInstance (.text id)) w = (.ok previous, w) ∧
      w.Wrote i id (some (.map (Entries.put Storage.versionKey (.int w.definition.version) es)))
        w' ∧
      exec (getInstance (.text id)) w' = (.ok (some x), w') ∧
      CallsOnce (put · (.text id) (.map es)) w
        (Entries.get? (w.definition.eventName "Updated") w.definition.events)
        [Change.toValue ⟨previous, x⟩, w.hooks] w' x
  deleted : ∀ i x, w.Serves i → exec (getInstance (.text id)) w = (.ok (some x), w) → ∃ w',
    w.Wrote i id none w' ∧ exec (getInstance (.text id)) w' = (.ok none, w') ∧
      CallsOnce (delete · (.text id)) w
        (Entries.get? (w.definition.eventName "Deleted") w.definition.events)
        [x.toValue, w.hooks] w' true

theorem World.exact {w : World} (hw : w.Anchored) (id : String) (es : Entries String Value) :
    w.Exact id es := by
  constructor
  · intro h
    apply unusable_iff.mpr
    rintro i ⟨hs, hp⟩
    rcases h with h | h
    · exact h hp
    · rw [h] at hs
      cases hs
  · intro i hserves hid
    have hbad := storableIdentity_text_error hid
    constructor
    · intro invoke
      show exec (create invoke _ _) w = _
      rw [create, exec_bind_ok (exec_usable hserves .create), hbad, exec_bind, exec_ofResult]
    · intro invoke
      exact exec_put_of_not_storable invoke hserves hbad _
  · intro hnone invoke
    by_cases hserves : ∃ i, w.Serves i
    · obtain ⟨i, hserves⟩ := hserves
      rw [exec_getInstance hserves] at hnone
      have hs := congrArg Prod.fst hnone
      exact exec_delete_of_none hserves rfl (Except.ok.inj hs) invoke
    · rw [(unusable_iff.mpr (not_exists.mp hserves)).get] at hnone
      cases congrArg Prod.fst hnone
  -- the events are those of the equations for the three operations, with the write before them
  · intro i hserves hid hr
    have hi := hw i hserves.1
    refine ⟨w.definition.made id es, w.storing i id es, wrote_storing hi es,
      exec_getInstance_storing hserves hi hr es, ?_⟩
    apply callsOnce_of_answer
    intro invoke
    exact Lifecycle.goesOn w.definition .created invoke w i _ id es rfl hserves
      (storableIdentity_text hid hr)
  · intro i hserves hid hr
    have hi := hw i hserves.1
    refine ⟨stored? w.definition (w.store i) id, w.definition.made id es, w.storing i id es,
      exec_getInstance hserves id, wrote_storing hi es, exec_getInstance_storing hserves hi hr es,
      ?_⟩
    apply callsOnce_of_answer
    intro invoke
    exact Lifecycle.goesOn w.definition .updated invoke w i _ id es rfl hserves
      (storableIdentity_text hid hr)
  · intro i x hserves hx
    have hi := hw i hserves.1
    rw [exec_getInstance hserves] at hx
    have hs := Except.ok.inj (congrArg Prod.fst hx)
    refine ⟨w.removing i id, wrote_removing hi, exec_getInstance_removing hserves hi, ?_⟩
    apply callsOnce_of_answer
    intro invoke
    exact Lifecycle.goesOn w.definition .deleted invoke w i _ id x rfl hserves rfl hs

namespace Order

/-- A handler of creation puts the instance that was created, and so a handler of changes is
called. -/
def bound : World where
  runtime :=
    { definition :=
        { (default : Definition) with
          type := "Order"
          events := [("onOrderCreated", .handler 0 "price"), ("onOrderUpdated", .handler 1 "log")] }
      phase := .bound
      storage := some 0 }
  stores := [[]]
  scripts := [{ label := "price", actions := [.patch [("total", .int 12)]] }, { label := "log" }]

end Order

end Entity
