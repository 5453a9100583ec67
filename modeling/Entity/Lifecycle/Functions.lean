import Entity.Lifecycle.World
import Entity.Value.Arithmetic

/-!
# Function fields

Calling a field by name.  A function runs in place; code text and generations are not run but come
back as records of what is to be done.
-/

namespace Entity

/-- What is left to do for code text. -/
def deferredExecution (name code : String) (args : List Value) : Value :=
  .record .deferredExecution [("name", .text name), ("code", .text code), ("args", .tuple args)]

/-- What is left to do for a generation. -/
def Generation.deferred (g : Generation) (name : String) (args : List Value) : Value :=
  .record .deferredGeneration [("name", .text name), ("prompt", .text g.prompt),
    ("args", .tuple args), ("output_schema", (g.schema.map Value.map).getD .null),
    ("model", Value.ofText? g.model), ("variables", Value.texts g.placeholders)]

namespace Run

/-- Call a function field by name. -/
def callFunction (invoke : Invoke) (name : String) (args : List Value) : Run Value := do
  let d ← definition
  match Entries.get? name d.functions with
  | some (.computation (.function f _)) => invoke f args
  | some (.computation (.code text)) => return deferredExecution name text args
  | some (.generation g) => return g.deferred name args
  | none => throw (.notFound .function name (some d.type))

/-- Call a function field that a value names. -/
def call (invoke : Invoke) (name : Value) (args : List Value) : Run Value := do
  match name with
  | .text name => callFunction invoke name args
  | v =>
    if v.isKey then throw (.notFound .function v.shown (some (← definition).type))
    else throw (Value.noKey v)

end Run

end Entity
