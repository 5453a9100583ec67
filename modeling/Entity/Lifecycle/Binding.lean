import Entity.Lifecycle.World
import Entity.Serialized
import Entity.Value.Arithmetic

/-!
# Binding and migrations

Binding a runtime to storage compares the version that the storage records with the definition's: an
older storage is migrated step by step, a newer one is refused.  The recorded version moves on after
every completed migration, so that a failed binding can be taken up again where it stopped.
-/

namespace Entity

/-- The version that a recorded value stands for; a value that counts as false stands for none. -/
def versionOfRecord (v : Value) : Except Failure Int := if v.isFalsy then .ok 0 else v.toInteger

/-- The migrations that lead from a stored version to a definition, ascending. -/
def Definition.pending (d : Definition) (stored : Int) : List Nat :=
  ascending ((Entries.keys d.migrations).filter fun v => stored < v ∧ v ≤ d.version)

namespace Run

/-- The version that the runtime's storage records; none without storage. -/
def storedVersion : Run Int := do
  match (← get).runtime.storage with
  | some i => ofResult (versionOfRecord (← readKey i Storage.versionKey))
  | none => return 0

/-! ## Migrations -/

/-- Call the handler of a migration. -/
def runMigration (invoke : Invoke) (target : Nat) : Run Unit := do
  let w ← get
  match Entries.get? target w.definition.migrations with
  | some handler =>
    let _ ← invoke handler [w.hooks]
  | none => return ()

/-- Note a failed migration and fail. -/
def failMigration (target : Nat) (applied : Int) (cause : Failure) : Run Unit := do
  let type := (← definition).type
  enter .stale
  warnAll [.migrationFailed type target cause.message]
  throw (.migration target applied type cause)

/-- Record a completed migration. -/
def completeMigration (i target : Nat) : Run Unit := do
  writeKey i Storage.versionKey (.int target)
  modify fun w => w.changeRuntime fun r => { r with migrationsRun := r.migrationsRun ++ [target] }

/-- Run migrations in order; `applied` is the version that was completed last. -/
def migrate (invoke : Invoke) (i : Nat) (applied : Int) : List Nat → Run Unit
  | [] => return ()
  | target :: targets => do
    tryCatch (runMigration invoke target) (failMigration target applied)
    completeMigration i target
    migrate invoke i target targets

/-! ## Binding -/

/-- Refuse a storage that a newer definition has written. -/
def refuse (stored : Int) : Run Unit := do
  let d ← definition
  modify fun w => w.changeRuntime ({ · with phase := .unbound, storage := none })
  throw (.storedNewer stored d.version d.type)

/-- Bind the runtime to a storage. -/
def bindTo (invoke : Invoke) (i : Nat) : Run Unit := do
  modify fun w => w.changeRuntime ({ · with storage := some i })
  let stored ← storedVersion
  let d ← definition
  if d.version < stored then refuse stored
  if stored < d.version then
    enter .migrating
    migrate invoke i stored (d.pending stored)
  writeKey i Storage.versionKey (.int d.version)
  writeKey i Storage.definitionKey (.map d.serialize)
  enter .bound

end Run

end Entity
