import Entity.Callable.Application
import Entity.Lifecycle.Members
import Entity.Number.Natural

/-!
# Running handlers

A scripted handler acts through the context that it is given as its last argument.  Its actions may
fire events and so call further handlers; every handler runs its actions only in its first calls,
which bounds how deep the calls nest.
-/

namespace Entity

/-! ## Arguments of handlers -/

/-- The payload that a handler is given; a single argument is the context. -/
def payloadArgument : List Value → Value
  | payload :: _ :: _ => payload
  | _ => .null

/-- The context that a handler is given: its last argument. -/
def contextArgument (args : List Value) : Value := args.getLast?.getD .null

/-- The instance that a handler was called for: the payload, or what a change left. -/
def subjectOf (payload : Value) : Except Failure Instance :=
  match payload with
  | .record .change [_, (_, current)] => match current.instance? with
    | some i => .ok i
    | none => .error (Value.noMember payload "id")
  | v => match v.instance? with
    | some i => .ok i
    | none => .error (Value.noMember v "id")

namespace Run

/-! ## Actions -/

/-- Read a key of the storage through the context. -/
def readStored (key : Value) : Run Value := do
  let w ← get
  match ← ofResult (w.definition.reference Member.storage.name) with
  | .function _ =>
    throw (.fault .missingAttribute "'functools.partial' object has no attribute 'get'")
  | .member _ => match w.runtime.storage, key with
    | none, _ => throw (Value.noMember .null "get")
    | some i, .text key => readKey i key
    | some _, v => if v.isKey then return .null else throw (Value.noKey v)

/-- The context's own members, its text, and the phase of the runtime. -/
def identityParts : Run Value := do
  let w ← get
  let d := w.definition
  return .list [.text (d.id.getD ""), .text d.type, .int d.version, Value.ofText? d.parent,
    Value.ofText? d.context, .text w.hooks.quoted, .text w.runtime.phase.name]

/-- Do an action for a payload. -/
def act (invoke : Invoke) (payload : Value) : Action → Run Value
  | .create id data => callMember invoke Member.create.name [id, data]
  | .put id data => callMember invoke Member.put.name [id, data]
  | .patch data => do
    let i ← ofResult (subjectOf payload)
    callMember invoke Member.put.name [.text i.id, .map (Entries.merge i.data data)]
  | .get id => callMember invoke Member.get.name [id]
  | .delete id => callMember invoke Member.delete.name [id]
  | .instances => callMember invoke Member.instances.name []
  | .emit event payload => callMember invoke Member.emit.name [event, payload]
  | .call name args => callMember invoke Member.call.name (name :: args)
  | .stored key => readStored key
  | .identity => identityParts

/-- Do an action through something that is given as the context; a mapping can only be read. -/
def actThrough (invoke : Invoke) (context payload : Value) (a : Action) : Run Value :=
  match context, a with
  | .hooks _ _, a => act invoke payload a
  | .map es, .get (.text key) => return Value.lookup es key
  | v, .stored _ => throw (Value.noMember v Member.storage.name)
  | v, .identity => throw (Value.noMember v Member.id.name)
  | v, .patch _ => throw (Value.noMember v Member.put.name)
  | v, a => throw (Value.noMember v a.name)

/-- Do actions in order and note the result of each. -/
def actAll (invoke : Invoke) (context payload : Value) : List Action → Run Unit
  | [] => return ()
  | a :: as => do
    let result ← actThrough invoke context payload a
    note (.acted a.name result)
    actAll invoke context payload as

/-! ## Handlers -/

/-- Count a call of a scripted handler; the number of this call. -/
def countCall (number : Nat) : Run Nat := do
  let n := (← get).callsOf number + 1
  modify fun w => { w with calls := Entries.put number n w.calls }
  return n

/-- Run a scripted handler. -/
def handle (invoke : Invoke) (number : Nat) (args : List Value) : Run Value := do
  let script := (← get).scripts[number]?.getD { label := "" }
  let n ← countCall number
  note (.handled script.label (payloadArgument args) args.length)
  actAll invoke (contextArgument args) (payloadArgument args) (script.actionsOf n)
  match script.faultOf n with
  | some text => throw (.fault .badValue text)
  | none => return script.answer

/-- Run a function that is no scripted handler. -/
def apply (f : Callable) (args : List Value) : Run Value := do
  let (calls, result) := f.call args
  noteAll calls
  ofResult result

/-- Call a function; scripted handlers may nest as deep as `depth`. -/
def invokeWithin : (depth : Nat) → Invoke
  | 0, .handler _ _, _ => throw (.fault .endlessRecursion "maximum recursion depth exceeded")
  | depth + 1, .handler number _, args => handle (invokeWithin depth) number args
  | _, f, args => apply f args

/-- A bound on how deep scripted handlers nest: each nested call uses up one of the calls in which a
handler acts. -/
def nesting (scripts : List Script) : Nat := total (scripts.map Script.times) + 1

/-- Call a function. -/
def invoke : Invoke := fun f args => do invokeWithin (nesting (← get).scripts) f args

end Run

end Entity
