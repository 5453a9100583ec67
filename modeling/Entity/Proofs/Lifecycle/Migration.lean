import Entity.Proofs.Lifecycle.Conduct
import Mathlib.Tactic.Common

/-!
# Running migrations

Binding a runtime runs the migrations that lead from the recorded version to the version of the
definition, ascending, and records each one when it is completed.  Main statements: what a bind does
to the world in each of its cases, and where the migrations stop that do not all complete.
-/

namespace Entity

open Run

/-! ## Recorded versions -/

/-- The version that storage `i` records; none counts as zero. -/
def World.recorded (w : World) (i : Nat) : Int :=
  match Entries.get? Storage.versionKey (w.store i) with
  | some (.int n) => n
  | _ => 0

/-- Storage `i` is there, and it records no version or one that is not negative. -/
structure World.Versioned (w : World) (i : Nat) : Prop where
  present : i < w.stores.length
  record : Entries.get? Storage.versionKey (w.store i) = none ∨
    ∃ n : Int, 0 ≤ n ∧ Entries.get? Storage.versionKey (w.store i) = some (.int n)

theorem isReserved_versionKey : isReserved Storage.versionKey = true := rfl

namespace World

theorem Versioned.recorded_nonneg {w : World} {i : Nat} (hv : w.Versioned i) :
    0 ≤ w.recorded i := by
  rcases hv.record with h | ⟨n, hn, h⟩
  · simp [recorded, h]
  · simpa [recorded, h] using hn

theorem Kept.recorded {w w' : World} {i : Nat} (h : w.Kept i w') :
    w'.recorded i = w.recorded i := by
  rw [World.recorded, World.recorded, h.reserved _ isReserved_versionKey]

theorem Kept.versioned {w w' : World} {i : Nat} (h : w.Kept i w') (hv : w.Versioned i) :
    w'.Versioned i := by
  refine ⟨h.length ▸ hv.present, ?_⟩
  rw [h.reserved _ isReserved_versionKey]
  exact hv.record

/-- A change of the runtime is no change of what is recorded. -/
@[simp] theorem recorded_changeRuntime (w : World) (i : Nat) (f : Runtime → Runtime) :
    (w.changeRuntime f).recorded i = w.recorded i := rfl

theorem Versioned.changeRuntime {w : World} {i : Nat} (hv : w.Versioned i)
    (f : Runtime → Runtime) : (w.changeRuntime f).Versioned i :=
  ⟨hv.present, hv.record⟩

/-- The world after a version was recorded. -/
def recording (w : World) (i : Nat) (n : Int) : World :=
  w.changeStore i (Entries.put Storage.versionKey (.int n))

theorem get?_recording {w : World} {i : Nat} (hi : i < w.stores.length) (n : Int) :
    Entries.get? Storage.versionKey ((w.recording i n).store i) = some (.int n) := by
  rw [recording, store_changeStore hi, Entries.get?_put, if_pos rfl]

theorem recorded_recording {w : World} {i : Nat} (hi : i < w.stores.length) (n : Int) :
    (w.recording i n).recorded i = n := by
  rw [recorded, get?_recording hi]

theorem versioned_recording {w : World} {i : Nat} (hi : i < w.stores.length) {n : Int}
    (hn : 0 ≤ n) : (w.recording i n).Versioned i := by
  refine ⟨?_, Or.inr ⟨n, hn, get?_recording hi n⟩⟩
  rw [recording, length_changeStore]
  exact hi

end World

/-- The version that a runtime reads in storage `i`; what is recorded there may be no number. -/
def World.readVersion (w : World) (i : Nat) : Except Failure Int :=
  versionOfRecord ((w.store i).read Storage.versionKey)

theorem Run.exec_storedVersion {w : World} {i : Nat} (hs : w.runtime.storage = some i) :
    exec storedVersion w = (w.readVersion i, w) := by
  rw [storedVersion, exec_bind, exec_get]
  dsimp only
  rw [hs]
  dsimp only
  rw [exec_bind, exec_readKey]
  dsimp only
  rw [exec_ofResult]
  rfl

/-- A version that is not negative is read as it is recorded. -/
theorem World.Versioned.readVersion {w : World} {i : Nat} (hv : w.Versioned i) :
    w.readVersion i = .ok (w.recorded i) := by
  rcases hv.record with h | ⟨n, _, h⟩
  · simp [World.readVersion, World.recorded, Storage.read, Value.lookup, h, versionOfRecord,
      Value.isFalsy]
  · by_cases hn : n = 0
    · simp [World.readVersion, World.recorded, Storage.read, Value.lookup, h, versionOfRecord,
        Value.isFalsy, hn]
    · simp [World.readVersion, World.recorded, Storage.read, Value.lookup, h, versionOfRecord,
        Value.isFalsy, hn, Value.toInteger]

/-! ## The worlds that migrations leave -/

namespace World

/-- The world after a migration was completed. -/
def completing (w : World) (i target : Nat) : World :=
  (w.recording i target).changeRuntime fun r =>
    { r with migrationsRun := r.migrationsRun ++ [target] }

/-- The world after a migration failed. -/
def failing (w : World) (target : Nat) (cause : Failure) : World :=
  { w.changeRuntime ({ · with phase := .stale }) with
    warnings := w.warnings ++ [.migrationFailed w.definition.type target cause.message] }

/-- The world in which a runtime looks at storage `i`. -/
def attaching (w : World) (i : Nat) : World := w.changeRuntime ({ · with storage := some i })

@[simp] theorem definition_attaching (w : World) (i : Nat) :
    (w.attaching i).definition = w.definition := rfl

@[simp] theorem recorded_attaching (w : World) (i : Nat) :
    (w.attaching i).recorded i = w.recorded i := rfl

/-- The world in which a runtime begins to migrate storage `i`. -/
def migrating (w : World) (i : Nat) : World :=
  w.changeRuntime ({ · with storage := some i, phase := .migrating })

/-- The world after a bind of a definition was completed. -/
def binding (w : World) (i : Nat) (d : Definition) : World :=
  ((w.recording i d.version).changeStore i
    (Entries.put Storage.definitionKey (.map d.serialize))).changeRuntime
      ({ · with phase := .bound })

theorem present_binding {w : World} {i : Nat} (hi : i < w.stores.length) (d : Definition) :
    i < (w.binding i d).stores.length := by
  show i < ((w.recording i d.version).changeStore i _).stores.length
  rw [length_changeStore, recording, length_changeStore]
  exact hi

/-- A completed bind records the version and the serialized definition. -/
theorem get?_binding {w : World} {i : Nat} (hi : i < w.stores.length) (d : Definition) :
    Entries.get? Storage.versionKey ((w.binding i d).store i) = some (.int d.version) ∧
      Entries.get? Storage.definitionKey ((w.binding i d).store i) = some (.map d.serialize) := by
  have hi' : i < (w.recording i d.version).stores.length := by
    rw [recording, length_changeStore]
    exact hi
  have hstore : (w.binding i d).store i =
      Entries.put Storage.definitionKey (.map d.serialize) ((w.recording i d.version).store i) :=
    store_changeStore hi' _
  rw [hstore, Entries.get?_put, Entries.get?_put, if_neg (by decide), if_pos rfl,
    get?_recording hi]
  exact ⟨rfl, rfl⟩

/-- The world after a bind was refused. -/
def refusing (w : World) : World :=
  w.changeRuntime ({ · with phase := .unbound, storage := none })

end World

theorem Run.exec_completeMigration (i target : Nat) (w : World) :
    exec (completeMigration i target) w = (.ok (), w.completing i target) := rfl

theorem Run.exec_failMigration (target : Nat) (applied : Int) (cause : Failure) (w : World) :
    exec (failMigration target applied cause) w =
      (.error (.migration target applied w.definition.type cause), w.failing target cause) := rfl

/-- A migration works through the operations if functions do. -/
theorem Run.mediated_runMigration {i : Nat} {invoke : Invoke} (hi : invoke.Mediated i)
    (target : Nat) : (runMigration invoke target).Mediated i := by
  refine mediated_get.bind fun w => ?_
  split
  · exact (hi _ _).bind fun _ => mediated_pure _
  · exact mediated_pure _

/-! ## Completed migrations -/

/-- From a world on, the migrations to these targets run one after the other and complete. -/
inductive Migrated (invoke : Invoke) (i : Nat) : World → List Nat → World → Prop where
  | nil (w : World) : Migrated invoke i w [] w
  | cons {w w' w'' : World} {target : Nat} {targets : List Nat} :
      exec (runMigration invoke target) w = (.ok (), w') →
      Migrated invoke i (w'.completing i target) targets w'' →
      Migrated invoke i w (target :: targets) w''

/-- What migrations leave of a world in which `targets` were completed. -/
structure World.Advanced (i : Nat) (targets : List Nat) (w w' : World) : Prop where
  runtime : w'.runtime =
    { w.runtime with migrationsRun := w.runtime.migrationsRun ++ targets }
  versioned : w'.Versioned i
  recorded : w'.recorded i = (targets.getLast?.map Int.ofNat).getD (w.recorded i)

/-- Completing a migration is one step of progress. -/
theorem World.advanced_completing {w w' : World} {i : Nat} (hk : w.Kept i w')
    (hv : w.Versioned i) (target : Nat) : World.Advanced i [target] w (w'.completing i target) := by
  have hi : i < w'.stores.length := (hk.versioned hv).present
  constructor
  · show { w'.runtime with migrationsRun := w'.runtime.migrationsRun ++ [target] } = _
    rw [hk.runtime]
  · exact (World.versioned_recording hi (Int.natCast_nonneg target)).changeRuntime _
  · rw [World.completing, World.recorded_changeRuntime, World.recorded_recording hi]
    rfl

theorem World.Advanced.trans {w w' w'' : World} {i target : Nat} {targets : List Nat}
    (h : World.Advanced i [target] w w') (h' : World.Advanced i targets w' w'') :
    World.Advanced i (target :: targets) w w'' := by
  refine ⟨?_, h'.versioned, ?_⟩
  · rw [h'.runtime, h.runtime]
    simp
  · rw [h'.recorded, h.recorded]
    cases targets <;> simp [List.getLast?_cons]

/-- **Progress.**  Completed migrations change the runtime by their record only, and storage records
the last of them. -/
theorem Migrated.advanced {invoke : Invoke} {i : Nat} (hi : invoke.Mediated i) {w w' : World}
    {targets : List Nat} (h : Migrated invoke i w targets w') (hs : w.runtime.storage = some i)
    (hv : w.Versioned i) : World.Advanced i targets w w' := by
  induction h with
  | nil w => exact ⟨by simp, hv, rfl⟩
  | @cons w w' w'' target targets hrun _ ih =>
      -- the migration itself keeps the runtime and the reserved keys; completing it records it
      obtain ⟨ds, hd⟩ := mediated_runMigration hi target w hs
      have hk := hd.kept
      rw [hrun] at hk
      have hstep := World.advanced_completing hk hv target
      refine hstep.trans (ih ?_ hstep.versioned)
      rw [hstep.runtime]
      exact hs

/-- Where the migrations stop that do not all complete. -/
structure Stopped (invoke : Invoke) (i : Nat) (w : World) (targets done : List Nat) (target : Nat)
    (cause : Failure) (w' : World) : Prop where
  split : ∃ rest, targets = done ++ target :: rest
  /-- The migrations before the failing one complete, and the failing one runs after them. -/
  run : ∃ reached, Migrated invoke i w done reached ∧
    exec (runMigration invoke target) reached = (.error cause, w')

/-- The version that is recorded after some migrations were completed. -/
def versionAfter (applied : Int) (done : List Nat) : Int :=
  (done.getLast?.map Int.ofNat).getD applied

theorem versionAfter_cons (applied : Int) (target : Nat) (done : List Nat) :
    versionAfter applied (target :: done) = versionAfter target done := by
  cases done <;> simp [versionAfter, List.getLast?_cons]

/-- **The migrations complete, or they stop at the first that fails.**  The failure tells the
version that was completed last. -/
theorem Run.migrate_outcome (invoke : Invoke) (i : Nat) (targets : List Nat) (applied : Int)
    (w : World) :
    (∃ w', Migrated invoke i w targets w' ∧
      exec (migrate invoke i applied targets) w = (.ok (), w')) ∨
    ∃ done target cause w', Stopped invoke i w targets done target cause w' ∧
      exec (migrate invoke i applied targets) w =
        (.error (.migration target (versionAfter applied done) w'.definition.type cause),
          w'.failing target cause) := by
  induction targets generalizing applied w with
  | nil => exact Or.inl ⟨w, .nil w, rfl⟩
  | cons target targets ih =>
      rcases hrun : exec (runMigration invoke target) w with ⟨_ | _, w'⟩
      · rename_i cause
        right
        refine ⟨[], target, cause, w', ⟨⟨targets, rfl⟩, w, .nil w, hrun⟩, ?_⟩
        rw [migrate, exec_bind, exec_tryCatch, hrun]
        dsimp only
        rw [exec_failMigration]
        rfl
      · have hrest : exec (migrate invoke i applied (target :: targets)) w =
            exec (migrate invoke i target targets) (w'.completing i target) := by
          rw [migrate, exec_bind, exec_tryCatch, hrun]
          dsimp only
          rw [exec_bind, exec_completeMigration]
        rw [hrest]
        rcases ih target (w'.completing i target) with
          ⟨w'', hm, hr⟩ | ⟨done, t, cause, w'', ⟨⟨rest, rfl⟩, reached, hm, hf⟩, hr⟩
        · exact Or.inl ⟨w'', .cons hrun hm, hr⟩
        · refine Or.inr ⟨target :: done, t, cause, w'', ⟨⟨rest, rfl⟩, reached, .cons hrun hm, hf⟩,
            ?_⟩
          rw [hr, versionAfter_cons]

/-- Where handlers work through the operations, the failure tells the version that storage
records. -/
theorem Run.migrate_cases {invoke : Invoke} {i : Nat} (hi : invoke.Mediated i)
    (targets : List Nat) {w : World} (hs : w.runtime.storage = some i) (hv : w.Versioned i) :
    (∃ w', Migrated invoke i w targets w' ∧
      exec (migrate invoke i (w.recorded i) targets) w = (.ok (), w')) ∨
    ∃ done target cause w', Stopped invoke i w targets done target cause w' ∧
      exec (migrate invoke i (w.recorded i) targets) w =
        (.error (.migration target (w'.recorded i) w'.definition.type cause),
          w'.failing target cause) := by
  rcases migrate_outcome invoke i targets (w.recorded i) w with
    h | ⟨done, target, cause, w', hstop, hr⟩
  · exact Or.inl h
  · refine Or.inr ⟨done, target, cause, w', hstop, ?_⟩
    obtain ⟨_, reached, hm, hrun⟩ := hstop
    have hadv := hm.advanced hi hs hv
    have hstorage : reached.runtime.storage = some i := by
      rw [hadv.runtime]
      exact hs
    -- the failing migration leaves the record of the completed ones
    obtain ⟨ds, hd⟩ := mediated_runMigration hi target reached hstorage
    have hk := hd.kept
    rw [hrun] at hk
    rw [hr, hk.recorded, hadv.recorded]
    rfl

/-! ## Binding -/

/-- **The cases of a bind.**  A record that cannot be read ends the bind at once; a newer storage is
refused; an older one is migrated first. -/
theorem Run.exec_bindTo_eq (invoke : Invoke) (i : Nat) (w : World) :
    exec (bindTo invoke i) w = match w.readVersion i with
      | .error e => (.error e, w.attaching i)
      | .ok stored =>
        if w.definition.version < stored then
          (.error (.storedNewer stored w.definition.version w.definition.type), w.refusing)
        else if stored < w.definition.version then
          match exec (migrate invoke i stored (w.definition.pending stored)) (w.migrating i) with
          | (.ok _, w') => (.ok (), w'.binding i w.definition)
          | (.error e, w') => (.error e, w')
        else (.ok (), (w.migrating i).binding i w.definition) := by
  have hread : exec storedVersion (w.attaching i) = (w.readVersion i, w.attaching i) :=
    exec_storedVersion rfl
  have hattach : exec (modify fun w => w.changeRuntime ({ · with storage := some i })) w =
      (.ok (), w.attaching i) := rfl
  rw [bindTo, exec_bind_ok hattach]
  rcases hversion : w.readVersion i with e | stored
  · rw [hversion] at hread
    rw [exec_bind_error hread]
  · rw [hversion] at hread
    rw [exec_bind_ok hread, exec_bind, exec_definition]
    dsimp only
    rw [World.definition_attaching]
    split
    · rfl
    · split
      -- an older storage: the phase is entered before the first migration
      · have hbegin : exec (enter .migrating) (w.attaching i) = (.ok (), w.migrating i) := rfl
        rw [exec_bind_ok hbegin, exec_bind]
        rcases exec (migrate invoke i stored (w.definition.pending stored)) (w.migrating i) with
          ⟨_ | _, w'⟩ <;> rfl
      · rfl

/-- The cases of a bind to a storage that records a version. -/
theorem Run.exec_bindTo {i : Nat} {w : World} (hv : w.Versioned i) (invoke : Invoke) :
    exec (bindTo invoke i) w =
      if w.definition.version < w.recorded i then
        (.error (.storedNewer (w.recorded i) w.definition.version w.definition.type), w.refusing)
      else if w.recorded i < w.definition.version then
        match exec (migrate invoke i (w.recorded i) (w.definition.pending (w.recorded i)))
            (w.migrating i) with
        | (.ok _, w') => (.ok (), w'.binding i w.definition)
        | (.error e, w') => (.error e, w')
      else (.ok (), (w.migrating i).binding i w.definition) := by
  rw [exec_bindTo_eq, hv.readVersion]

end Entity
