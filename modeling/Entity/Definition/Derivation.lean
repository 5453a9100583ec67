import Entity.Definition.Reading
import Entity.Instance

/-!
# Derivation

A definition is extended to a child type by overriding keys, or made into an instance by giving it
an identity.  The parent is never changed.
-/

namespace Entity

namespace Definition

/-- The mapping of a child type: the parent's keys without its identity, overridden by the child's,
with the parent's type and the version of either. -/
def childRaw (d : Definition) (part : Entries String Value) : Entries String Value :=
  let version :=
    Value.firstTruthy (Value.lookup part "$version") [Value.lookup d.raw "$version", .int 1]
  let inherited := Entries.erase "$id" d.raw
  Entries.put "$version" version
    (Entries.put "$extends" (.text d.type) (Entries.merge inherited part))

/-- Make a child type. -/
def extend (d : Definition) (part : Entries String Value) : Outcome Definition :=
  if Entries.has "$id" part then
    Outcome.fail (.definition .extensionWithIdentity (some d.type))
  else Definition.read (d.childRaw part)

/-- A text, where nothing else is accepted. -/
def requireText (v : Value) : Except Failure String := do
  match ← requireText? v with
  | some s => return s
  | none => .error invalidModel

/-- Make an instance; type and context of the data override those of the definition. -/
def instantiate (d : Definition) (id : Value) (data : Entries String Value) :
    Except Failure Instance := do
  let id ← requireText id
  let type ← requireText (Value.firstTruthy (Value.lookup data "$type") [.text d.type])
  let context ←
    requireText? (Value.firstTruthy (Value.lookup data "$context") [Value.ofText? d.context])
  return {
    id, type, context, version := d.version
    data := data.filter fun e => !isReserved e.1 }

/-- What a derivation makes. -/
inductive Derived where
  | definition (d : Definition)
  | entity (i : Instance)
  deriving Inhabited

/-- The definition that was made; an instance has none of its members. -/
def Derived.toDefinition : Derived → Outcome Definition
  | definition d => return d
  | entity _ => Outcome.fail (.fault .missingAttribute "not a definition")

/-- Extend, or make an instance if there is an identity or an instance is asked for. -/
def derive (d : Definition) (part : Entries String Value) (asInstance : Bool) :
    Outcome Derived := do
  match Entries.get? "$id" part with
  | some id =>
    return .entity (← d.instantiate (.text id.shown) (Entries.erase "$id" part))
  | none =>
    if asInstance then Outcome.fail (.definition .instanceWithoutIdentity (some d.type))
    else return .definition (← d.extend part)

end Definition

end Entity
