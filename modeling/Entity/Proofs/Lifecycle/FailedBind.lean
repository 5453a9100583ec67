import Entity.Proofs.Lifecycle.Migration
import Mathlib.Data.List.Induction
import Mathlib.Tactic.Common

/-!
# Binds that fail

A bind fails in three places: the record of the version cannot be read, the storage is newer than
the definition, or a migration fails.  Main statement: after a failed bind every operation on
instances is refused until a later bind succeeds, with one exception, a runtime that could be used
before and a record that cannot be read; what a failed bind has changed in storage is the work of
the migrations and the versions of those that were completed.
-/

namespace Entity

open Run

/-! ## Runtimes that cannot be used -/

/-- Every operation on instances is refused because of the phase, and changes nothing. -/
structure World.Unusable (w : World) : Prop where
  create : ∀ (invoke : Invoke) (id data : Value), exec (create invoke id data) w =
    (.error (.wrongPhase .create w.runtime.phase w.definition.type), w)
  put : ∀ (invoke : Invoke) (id data : Value), exec (put invoke id data) w =
    (.error (.wrongPhase .put w.runtime.phase w.definition.type), w)
  get : ∀ id : Value, exec (getInstance id) w =
    (.error (.wrongPhase .get w.runtime.phase w.definition.type), w)
  delete : ∀ (invoke : Invoke) (id : Value), exec (delete invoke id) w =
    (.error (.wrongPhase .delete w.runtime.phase w.definition.type), w)
  list : exec instances w = (.error (.wrongPhase .list w.runtime.phase w.definition.type), w)

namespace World

/-- The operations are refused exactly if the runtime serves no storage. -/
theorem unusable_iff {w : World} : w.Unusable ↔ ∀ i, ¬ w.Serves i := by
  constructor
  · intro h i hw
    have hlist := h.list
    rw [exec_instances hw] at hlist
    cases congrArg Prod.fst hlist
  · intro hw
    constructor
    · intro invoke id data
      exact exec_bind_error (exec_usable_of_not_serves hw .create) _
    · intro invoke id data
      exact exec_bind_error (exec_usable_of_not_serves hw .put) _
    · intro id
      exact exec_bind_error (exec_usable_of_not_serves hw .get) _
    · intro invoke id
      exact exec_bind_error (exec_usable_of_not_serves hw .delete) _
    · exact exec_bind_error (exec_usable_of_not_serves hw .list) _

end World

/-! ## The places where a bind fails -/

/-- How a bind to storage `i` fails, with its failure and the world that it leaves. -/
inductive World.BindFails (invoke : Invoke) (i : Nat) (w : World) : Failure → World → Prop where
  /-- The record of the version cannot be read: the runtime stays in its phase. -/
  | unreadable {e : Failure} :
      w.readVersion i = .error e → BindFails invoke i w e (w.attaching i)
  /-- The storage is newer than the definition. -/
  | newer {stored : Int} :
      w.readVersion i = .ok stored → w.definition.version < stored →
      BindFails invoke i w (.storedNewer stored w.definition.version w.definition.type) w.refusing
  /-- A migration fails. -/
  | stopped {stored : Int} {done : List Nat} {target : Nat} {cause : Failure} {w' : World} :
      w.readVersion i = .ok stored → stored < w.definition.version →
      Stopped invoke i (w.migrating i) (w.definition.pending stored) done target cause w' →
      BindFails invoke i w (.migration target (versionAfter stored done) w'.definition.type cause)
        (w'.failing target cause)

/-- A bind that fails does so in one of these places. -/
theorem Run.bindFails_of_exec {invoke : Invoke} {i : Nat} {w w' : World} {e : Failure}
    (h : exec (bindTo invoke i) w = (.error e, w')) : w.BindFails invoke i e w' := by
  rw [exec_bindTo_eq] at h
  rcases hversion : w.readVersion i with e' | stored
  · rw [hversion] at h
    cases h
    exact .unreadable hversion
  · rw [hversion] at h
    dsimp only at h
    split at h
    · rename_i hnewer
      cases h
      exact .newer hversion hnewer
    · split at h
      · rename_i holder
        rcases migrate_outcome invoke i (w.definition.pending stored) stored (w.migrating i) with
          ⟨w'', hm, hr⟩ | ⟨done, target, cause, w'', hstop, hr⟩
        · rw [hr] at h
          cases h
        · rw [hr] at h
          cases h
          exact .stopped hversion holder hstop
      · cases h

/-- The phase after a failed bind allows no operation, unless it allowed operations before and the
record could not be read. -/
theorem World.BindFails.phase {invoke : Invoke} {i : Nat} {w w' : World} {e : Failure}
    (h : w.BindFails invoke i e w') :
    w'.runtime.phase ∉ usablePhases ∨
      w.readVersion i = .error e ∧ w.runtime.phase ∈ usablePhases ∧ w'.Serves i := by
  cases h with
  | unreadable hversion =>
      -- nothing was cleaned up: the phase is the one from before the bind
      by_cases hphase : w.runtime.phase ∈ usablePhases
      · exact Or.inr ⟨hversion, hphase, rfl, hphase⟩
      · exact Or.inl hphase
  | newer _ _ =>
      left
      show Phase.unbound ∉ usablePhases
      decide
  | stopped _ _ _ =>
      left
      show Phase.stale ∉ usablePhases
      decide

/-! ## What follows a failed bind -/

/-- A later world to which no successful bind has led: the runtime was left alone, or was bound to
some storage without success. -/
inductive World.Later : World → World → Prop where
  | refl (w : World) : Later w w
  | beside {w w' w'' : World} : Later w w' → w''.runtime = w'.runtime → Later w w''
  | failed {w w' w'' : World} {invoke : Invoke} {i : Nat} {e : Failure} :
      Later w w' → exec (bindTo invoke i) w' = (.error e, w'') → Later w w''

/-- A runtime that is in no phase for operations gets into one by a successful bind only. -/
theorem World.Later.phase {w w' : World} (h : w.Later w')
    (hw : w.runtime.phase ∉ usablePhases) : w'.runtime.phase ∉ usablePhases := by
  induction h with
  | refl => exact hw
  | beside _ hr ih =>
      rw [hr]
      exact ih
  | failed _ hb ih =>
      rcases (bindFails_of_exec hb).phase with hphase | ⟨_, hphase, _⟩
      · exact hphase
      · exact absurd hphase ih

/-! ## What is left in storage -/

/-- From one world to another the reserved keys of storage `i` stay as they are, but for the version
that the last of the completed `targets` has recorded. -/
structure World.Moved (i : Nat) (targets : List Nat) (w w' : World) : Prop where
  storage : w'.runtime.storage = w.runtime.storage
  length : w'.stores.length = w.stores.length
  version : i < w.stores.length → Entries.get? Storage.versionKey (w'.store i) =
    (targets.getLast?.map fun target => some (Value.int target)).getD
      (Entries.get? Storage.versionKey (w.store i))
  reserved : ∀ key, isReserved key = true → key ≠ Storage.versionKey →
    Entries.get? key (w'.store i) = Entries.get? key (w.store i)

namespace World

theorem Kept.moved {i : Nat} {w w' : World} (h : w.Kept i w') : World.Moved i [] w w' :=
  ⟨by rw [h.runtime], h.length, fun _ => h.reserved _ isReserved_versionKey,
    fun key hk _ => h.reserved key hk⟩

theorem moved_completing (w : World) (i target : Nat) :
    World.Moved i [target] w (w.completing i target) := by
  constructor
  · rfl
  · exact length_changeStore w i _
  · intro hi
    exact get?_recording hi target
  · intro key _ hkey
    show Entries.get? key ((w.recording i target).store i) = _
    rcases Nat.lt_or_ge i w.stores.length with hi | hi
    · rw [recording, store_changeStore hi, Entries.get?_put, if_neg (Ne.symm hkey)]
    · rw [recording, changeStore_of_length_le hi]

theorem Moved.trans {i : Nat} {targets later : List Nat} {w w' w'' : World}
    (h : World.Moved i targets w w') (h' : World.Moved i later w' w'') :
    World.Moved i (targets ++ later) w w'' := by
  constructor
  · rw [h'.storage, h.storage]
  · rw [h'.length, h.length]
  · intro hi
    rw [h'.version (by rw [h.length]; exact hi), h.version hi]
    -- the last version is that of a later migration, if there is one
    cases later using List.reverseRecOn with
    | nil => simp
    | append_singleton later target => simp [← List.append_assoc]
  · intro key hk hkey
    rw [h'.reserved key hk hkey, h.reserved key hk hkey]

end World

/-- A migration that works through the operations moves nothing. -/
theorem Run.moved_runMigration {invoke : Invoke} {i : Nat} (hi : invoke.Mediated i) {w : World}
    (hs : w.runtime.storage = some i) (target : Nat) :
    World.Moved i [] w (exec (runMigration invoke target) w).2 := by
  obtain ⟨ds, hd⟩ := mediated_runMigration hi target w hs
  exact hd.kept.moved

theorem Migrated.moved {invoke : Invoke} {i : Nat} (hi : invoke.Mediated i) {w w' : World}
    {targets : List Nat} (h : Migrated invoke i w targets w') (hs : w.runtime.storage = some i) :
    World.Moved i targets w w' := by
  induction h with
  | nil w => exact (World.Kept.refl i w).moved
  | @cons w w' w'' target targets hrun _ ih =>
      have hmoved := moved_runMigration hi hs target
      rw [hrun] at hmoved
      have hstep := hmoved.trans (World.moved_completing w' i target)
      exact hstep.trans (ih (by rw [hstep.storage, hs]))

/-- Where a failing migration leaves storage: it works through the operations, after others that
were completed. -/
theorem Stopped.moved {invoke : Invoke} {i target : Nat} {targets done : List Nat}
    {cause : Failure} {w w' : World} (hi : invoke.Mediated i)
    (h : Stopped invoke i w targets done target cause w') (hs : w.runtime.storage = some i) :
    World.Moved i done w w' := by
  obtain ⟨_, reached, hm, hrun⟩ := h
  have hdone := hm.moved hi hs
  have hlast := moved_runMigration hi (by rw [hdone.storage, hs]) target
  rw [hrun] at hlast
  simpa using hdone.trans hlast

namespace Invoice

/-- A definition with two migrations. -/
def definition : Definition :=
  { (default : Definition) with
    type := "Invoice"
    version := 3
    migrations := [(2, .handler 0 "backfill"), (3, .handler 1 "check")] }

/-- Three storages: one of the present version, one of an old version, and one whose record is no
number. -/
def fresh : World where
  runtime := { definition }
  stores := [[(Storage.versionKey, .int 3)], [(Storage.versionKey, .text "1")],
    [(Storage.versionKey, .text "two")]]
  scripts := [{ label := "backfill", actions := [.create (.text "acme") (.map [])] },
    { label := "check", fault := some "bad data" }]

/-- The world after the runtime was bound to the first storage. -/
def bound : World := (exec (bindTo Run.invoke 0) fresh).2

end Invoice

end Entity
