import Entity.Lifecycle.Functions
import Entity.Lifecycle.Hooks

/-!
# Members of the context of handlers

The context that handlers are given offers identity, storage, operations and hooks as members.  A
function field takes the place of a member of the same name, except for the members of identity and
for names that begin with a low line.
-/

namespace Entity

/-- A member of the context. -/
inductive Member where
  | id | type | version | extends | context
  | storage
  | instances | create | get | put | delete | call | emit
  | cascade | search | enrich
  deriving DecidableEq, Repr, Inhabited

/-- The name of a member. -/
def Member.name : Member → String
  | id => "id"
  | type => "type"
  | version => "version"
  | «extends» => "extends"
  | context => "context"
  | storage => "storage"
  | instances => "instances"
  | create => "create"
  | get => "get"
  | put => "put"
  | delete => "delete"
  | call => "call"
  | emit => "emit"
  | cascade => "cascade"
  | search => "search"
  | enrich => "enrich"

/-- All members. -/
def Member.all : List Member :=
  [id, type, version, «extends», context, storage, instances, create, get, put, delete, call, emit,
    cascade, search, enrich]

/-- The member with a name. -/
def Member.ofName? (name : String) : Option Member := all.find? fun m => m.name == name

/-- What a name stands for in the context. -/
inductive Reference where
  | function (name : String)
  | member (m : Member)
  deriving DecidableEq, Repr, Inhabited

/-- A function field may take the place of a member with the name. -/
def isReplaceable (name : String) : Bool :=
  name.toList.head? != some '_' && !identityMembers.contains name

/-- What a name stands for. -/
def Definition.reference (d : Definition) (name : String) : Except Failure Reference :=
  if isReplaceable name && Entries.has name d.functions then .ok (.function name)
  else match Member.ofName? name with
    | some m => .ok (.member m)
    | none => .error (.unknownMember .handlerContext name)

namespace Run

/-- The value of a member, if it is one and no operation. -/
def memberValue? (m : Member) : Run (Option Value) := do
  let w ← get
  let d := w.definition
  match m with
  | .id => return some (.text (d.id.getD ""))
  | .type => return some (.text d.type)
  | .version => return some (.int d.version)
  | .extends => return some (Value.ofText? d.parent)
  | .context => return some (Value.ofText? d.context)
  | .storage => return some (if w.runtime.storage.isSome then .text m.name else .null)
  | _ => return none

/-- The value that a name stands for; operations and functions answer their names. -/
def attr (name : String) : Run Value := do
  match ← ofResult ((← definition).reference name) with
  | .function name => return .text name
  | .member m => return (← memberValue? m).getD (.text m.name)

/-- An operation was given the wrong number of arguments. -/
def wrongCount {α : Type} (m : Member) : Run α :=
  throw (Value.badType ("HandlerContext." ++ m.name ++ "() takes another number of arguments"))

/-- The text of a field name. -/
def fieldName (v : Value) : Except Failure String :=
  match v with
  | .text s => .ok s
  | v => .error (if v.isKey then .notFound .cascade v.shown none else Value.noKey v)

/-- Call a member as an operation. -/
def operate (invoke : Invoke) (m : Member) (args : List Value) : Run Value := do
  match m, args with
  | .instances, [] => return .list ((← instances).map Instance.toValue)
  | .create, [id, data] => return (← create invoke id data).toValue
  | .get, [id] => return Instance.ofOption (← getInstance id)
  | .put, [id, data] => return (← put invoke id data).toValue
  | .delete, [id] => return .bool (← delete invoke id)
  | .call, name :: args => call invoke name args
  | .emit, [event] => emit invoke event .null
  | .emit, [event, payload] => emit invoke event payload
  | .cascade, [subject, field] => cascade invoke subject (← ofResult (fieldName field))
  | .search, [subject, field] => search subject (← ofResult (fieldName field))
  | .enrich, [subject] => return .map (← enrich invoke subject)
  | m, _ => match ← memberValue? m with
    | some v => throw (Value.badType ("'" ++ v.kindName ++ "' object is not callable"))
    | none => wrongCount m

/-- Call what a name stands for. -/
def callMember (invoke : Invoke) (name : String) (args : List Value) : Run Value := do
  match ← ofResult ((← definition).reference name) with
  | .function name => callFunction invoke name args
  | .member m => operate invoke m args

end Run

end Entity
