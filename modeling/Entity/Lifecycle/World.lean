import Entity.Definition
import Entity.Journal
import Entity.Lifecycle.Script
import Entity.Outcome
import Entity.Storage

/-!
# The world of a runtime

A runtime is a definition that is bound, or about to be bound, to storage.  Its operations read and
change a world: the runtime, the storages, what is known of the handlers that were called, and a
journal.  A failing operation keeps what it changed before it failed.
-/

namespace Entity

/-- A definition that is bound, or about to be bound, to storage. -/
structure Runtime where
  definition : Definition
  phase : Phase := .unbound
  /-- The number of the storage. -/
  storage : Option Nat := none
  /-- The targets of the migrations that this runtime completed, in order. -/
  migrationsRun : List Nat := []
  deriving Inhabited

/-- How a runtime shows itself. -/
def Runtime.toText (r : Runtime) : String :=
  "Runtime(" ++ Text.quoted r.definition.type ++ ", state=" ++ r.phase.name ++ ")"

/-- The services that hooks call; a generator is told the number of its earlier requests. -/
structure Services where
  generate : Option (Nat → Value → Except Failure Value) := none
  /-- The match for a value among the instances of a type. -/
  ground : Option (Value → String → Except Failure Value) := none
  fetch : Option (Enrichment → Entries String String → Except Failure Value) := none
  deriving Inhabited

/-- What the operations of a runtime read and change. -/
structure World where
  runtime : Runtime
  stores : List Storage := []
  services : Services := {}
  /-- The scripted handlers, by number. -/
  scripts : List Script := []
  /-- How often each scripted handler was called. -/
  calls : Entries Nat Nat := []
  /-- How many generations were asked for. -/
  requests : Nat := 0
  journal : Journal := []
  warnings : List Warning := []
  deriving Inhabited

/-- An operation on the world that may fail. -/
abbrev Run := ExceptT Failure (StateM World)

/-- How functions, handlers among them, are called. -/
abbrev Invoke := Callable → List Value → Run Value

namespace World

/-! ## Reading -/

/-- A storage by number. -/
def store (w : World) (i : Nat) : Storage := w.stores[i]?.getD []

/-- The definition of the runtime. -/
def definition (w : World) : Definition := w.runtime.definition

/-- The context that handlers are given. -/
def hooks (w : World) : Value := .hooks w.definition.type w.definition.version

/-- How often a scripted handler was called. -/
def callsOf (w : World) (number : Nat) : Nat := (Entries.get? number w.calls).getD 0

/-! ## Changing -/

/-- Change a storage. -/
def changeStore (w : World) (i : Nat) (f : Storage → Storage) : World :=
  { w with stores := w.stores.modify i f }

/-- Change the runtime. -/
def changeRuntime (w : World) (f : Runtime → Runtime) : World := { w with runtime := f w.runtime }

/-- Put a runtime in the place of the present one. -/
def withRuntime (w : World) (r : Runtime) : World := { w with runtime := r }

/-- Add a storage. -/
def addStore (w : World) (s : Storage) : World := { w with stores := w.stores ++ [s] }

/-- The number of the storage that was added last. -/
def latestStore (w : World) : Nat := w.stores.length - 1

end World

namespace Run

/-- Note what happened. -/
def note (h : Happening) : Run Unit := modify fun w => { w with journal := w.journal ++ [h] }

/-- Note all that happened. -/
def noteAll (hs : Journal) : Run Unit := modify fun w => { w with journal := w.journal ++ hs }

/-- Log warnings. -/
def warnAll (ws : List Warning) : Run Unit :=
  modify fun w => { w with warnings := w.warnings ++ ws }

/-- A result or a failure. -/
def ofResult {α : Type} : Except Failure α → Run α
  | .ok a => pure a
  | .error e => throw e

/-- A computation with warnings. -/
def ofOutcome {α : Type} (x : Outcome α) : Run α := do
  warnAll x.warnings
  ofResult x.result

/-- The definition of the runtime. -/
def definition : Run Definition := do return (← get).definition

/-- The value under a key of a storage. -/
def readKey (i : Nat) (key : String) : Run Value := do return ((← get).store i).read key

/-- Write a value under a key of a storage. -/
def writeKey (i : Nat) (key : String) (v : Value) : Run Unit :=
  modify fun w => w.changeStore i (Entries.put key v)

/-- Remove a key of a storage. -/
def removeKey (i : Nat) (key : String) : Run Unit :=
  modify fun w => w.changeStore i (Entries.erase key)

/-- Go into a phase. -/
def enter (phase : Phase) : Run Unit := modify fun w => w.changeRuntime ({ · with phase })

/-- The phases in which instances can be read and written. -/
def usablePhases : List Phase := [.bound, .migrating]

/-- The number of the storage, in a phase that allows the operation. -/
def usable (operation : Operation) (phases : List Phase) : Run Nat := do
  let r := (← get).runtime
  match r.storage with
  | some i =>
    if phases.contains r.phase then return i
    else throw (.wrongPhase operation r.phase r.definition.type)
  | none => throw (.wrongPhase operation r.phase r.definition.type)

end Run

/-! ## New runtimes -/

/-- The names that the context of handlers keeps for itself. -/
def identityMembers : List String := ["context", "extends", "id", "type", "version"]

/-- A runtime without storage; functions whose names the context keeps for itself are warned of. -/
def Runtime.ofDefinition (d : Definition) : Outcome Runtime := do
  let shadowed := identityMembers.filter fun name => Entries.has name d.functions
  if shadowed ≠ [] then
    Outcome.warn (.shadowedFunctions d.type (Text.join ", " shadowed))
  return { definition := d }

end Entity
