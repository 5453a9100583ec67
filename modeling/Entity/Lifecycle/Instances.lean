import Entity.Instance
import Entity.Lifecycle.World
import Entity.Text.Word
import Entity.Value.Arithmetic

/-!
# Instances in storage

Instances are created, read, replaced and removed while a runtime is usable.  Every write is
followed by the event of its kind, fired once, before the operation answers.
-/

namespace Entity

/-! ## Payloads -/

/-- The version that a payload is tagged with; without a positive one, the definition's. -/
def Definition.versionOf (d : Definition) (payload : Entries String Value) : Int :=
  match Value.lookup payload Storage.versionKey with
  | .int n => if 0 < n then n else d.version
  | .bool true => 1
  | _ => d.version

/-- The instance that a payload holds. -/
def Definition.instanceOf (d : Definition) (id : String) (payload : Entries String Value) :
    Instance where
  id := id
  type := d.type
  version := d.versionOf payload
  data := Entries.erase Storage.versionKey payload
  context := d.context

/-- The payload of data: the data tagged with the definition's version. -/
def Definition.payloadOf (d : Definition) (data : Value) : Except Failure (Entries String Value) :=
  match data with
  | .map data => .ok (Entries.put Storage.versionKey (.int d.version) data)
  | v => .error (Value.badType ("'" ++ v.kindName ++ "' object is not a mapping"))

/-- The name of a lifecycle event. -/
def Definition.eventName (d : Definition) (suffix : String) : String :=
  "on" ++ String.ofList (d.type.toList.filter Text.isWord) ++ suffix

/-- The text of an identity. -/
def identityText (id : Value) : Except Failure String :=
  match id with
  | .text s => .ok s
  | .bytes _ =>
    .error (Value.badType "startswith first arg must be bytes or a tuple of bytes, not str")
  | v => .error (Value.noMember v "startswith")

/-- An identity that an instance may be stored under: not empty and not reserved. -/
def storableIdentity (id : Value) : Except Failure String := do
  if id.isFalsy then .error (.badInstanceId id.quoted)
  else
    let key ← identityText id
    if isReserved key then .error (.badInstanceId id.quoted) else .ok key

namespace Run

/-! ## Events -/

/-- Call the handler of an event with a payload; without a handler nothing happens. -/
def fire (invoke : Invoke) (event : String) (payload : Value) : Run Value := do
  let w ← get
  match Entries.get? event w.definition.events with
  | some handler => invoke handler [payload, w.hooks]
  | none => return .null

/-- Fire an event that a value names. -/
def emit (invoke : Invoke) (event payload : Value) : Run Value :=
  match event with
  | .text name => fire invoke name payload
  | v => if v.isKey then return .null else throw (Value.noKey v)

/-! ## Reading -/

/-- The instance under a key of a storage. -/
def instanceAt (i : Nat) (key : String) : Run (Option Instance) := do
  if isReserved key then return none
  else
    let w ← get
    match (w.store i).read key with
    | .map payload => return some (w.definition.instanceOf key payload)
    | _ => return none

/-- The instance with an identity. -/
def getInstance (id : Value) : Run (Option Instance) := do
  let i ← usable .get usablePhases
  instanceAt i (← ofResult (identityText id))

/-- The instances of sorted entries. -/
def instancesOf (d : Definition) (es : Entries String Value) : List Instance :=
  es.filterMap fun
    | (key, .map payload) => if isReserved key then none else some (d.instanceOf key payload)
    | _ => none

/-- All stored instances, in the order of their identities. -/
def instances : Run (List Instance) := do
  let i ← usable .list usablePhases
  let w ← get
  return instancesOf w.definition (w.store i).sorted

/-! ## Writing -/

/-- Store data under an identity and fire the event of creation. -/
def create (invoke : Invoke) (id data : Value) : Run Instance := do
  let i ← usable .create usablePhases
  let key ← ofResult (storableIdentity id)
  let d ← definition
  let payload ← ofResult (d.payloadOf data)
  writeKey i key (.map payload)
  let made := d.instanceOf key payload
  let _ ← fire invoke (d.eventName "Created") made.toValue
  return made

/-- Replace what is stored under an identity and fire the event of a change. -/
def put (invoke : Invoke) (id data : Value) : Run Instance := do
  let i ← usable .put usablePhases
  let key ← ofResult (storableIdentity id)
  let previous ← instanceAt i key
  let d ← definition
  let payload ← ofResult (d.payloadOf data)
  writeKey i key (.map payload)
  let current := d.instanceOf key payload
  let _ ← fire invoke (d.eventName "Updated") (Change.toValue ⟨previous, current⟩)
  return current

/-- Remove an instance and fire the event of removal; there may be none to remove. -/
def delete (invoke : Invoke) (id : Value) : Run Bool := do
  let i ← usable .delete usablePhases
  let key ← ofResult (identityText id)
  match ← instanceAt i key with
  | none => return false
  | some existing =>
    removeKey i key
    let _ ← fire invoke ((← definition).eventName "Deleted") existing.toValue
    return true

end Run

end Entity
