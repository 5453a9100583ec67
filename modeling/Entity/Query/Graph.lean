import Entity.Instance
import Entity.Query.Base
import Entity.Query.Reference
import Entity.Text.Case
import Entity.Value.Arithmetic

/-!
# Graphs of instances

A graph holds instances under absolute identities, in the order in which the identities first came.
Relative identities are understood against the base of the graph.  Main statement: an instance is
found under every identity that resolves to its own, until it is replaced or removed.
-/

namespace Entity

/-- Instances under absolute identities. -/
structure Graph where
  base : String
  entries : Entries String Instance := []
  deriving Inhabited

/-! ## Instances from mappings -/

/-- The fields of a mapping that stands for an instance. -/
def valuesOf (data : Entries String Value) : Entries String Value :=
  match Value.lookup data "values" with
  | .map values => values
  | _ => data.filter fun e => !isReserved e.1

/-- The version of a mapping that stands for an instance. -/
def mappedVersion (data : Entries String Value) : Except Failure Int :=
  let v := Value.lookup data "$version"
  if v.isFalsy then .ok 1 else v.toInteger

/-- The base of a mapping that stands for an instance. -/
def mappedContext (data : Entries String Value) : Except Failure (Option String) :=
  match Value.lookup data "$context" with
  | .null => .ok none
  | .text s => .ok (some s)
  | _ => .error (.fault .invalidModel "context is not a text")

/-- The instance that a mapping with `$id` and `$type` stands for. -/
def Instance.ofEntries (data : Entries String Value) : Except Failure Instance := do
  match Entries.get? "$id" data, Entries.get? "$type" data with
  | some id, some type =>
    let version ← mappedVersion data
    let context ← mappedContext data
    return { id := id.shown, type := type.shown, version, data := valuesOf data, context }
  | _, _ => .error .incompleteMapping

/-- The instance that a value is or stands for. -/
def Instance.ofValue (v : Value) : Except Failure Instance :=
  match v, v.instance? with
  | _, some i => .ok i
  | .map data, _ => Instance.ofEntries data
  | .text _, _ | .list _, _ | .tuple _, _ => .error .incompleteMapping
  | v, _ => .error (Value.badType ("argument of type '" ++ v.kindName ++ "' is not iterable"))

namespace Graph

/-- The absolute form of an identity. -/
def resolve (g : Graph) (id : String) : String := resolveIdentity g.base id

/-! ## Writing -/

/-- The instance with its absolute identity, and with the base of the graph if it has none. -/
def adopted (g : Graph) (i : Instance) : Instance :=
  { i with id := g.resolve i.id, context := some ((Text.nonEmpty? i.context).getD g.base) }

/-- Add an instance, or put it in the place of the one with the same identity. -/
def add (g : Graph) (i : Instance) : Graph :=
  { g with entries := Entries.put (g.resolve i.id) (g.adopted i) g.entries }

/-- Remove the instance with an identity. -/
def remove (g : Graph) (id : String) : Graph :=
  { g with entries := Entries.erase (g.resolve id) g.entries }

/-- Add what values stand for, in order. -/
def addAll (g : Graph) : List Value → Except Failure Graph
  | [] => .ok g
  | v :: vs => do addAll (g.add (← Instance.ofValue v)) vs

/-! ## Reading -/

/-- The instance with an identity, if there is one. -/
def find? (g : Graph) (id : String) : Option Instance := Entries.get? (g.resolve id) g.entries

/-- There is an instance with an identity. -/
def has (g : Graph) (id : String) : Bool := (g.find? id).isSome

/-- The instance with an identity. -/
def get (g : Graph) (id : String) : Except Failure Instance :=
  match g.find? id with
  | some i => .ok i
  | none => .error (.notFound .entity (g.resolve id) none)

/-- The instances, in order. -/
def instances (g : Graph) : List Instance := g.entries.map Prod.snd

/-- The instances of a type, in order. -/
def ofType (g : Graph) (type : String) : List Instance := g.instances.filter fun i => i.type == type

/-- The types of the instances, ascending, each once. -/
def types (g : Graph) : List String :=
  (g.instances.map Instance.type).eraseDups.mergeSort fun a b => decide (a ≤ b)

/-- A key without slashes at its ends. -/
def bareKey (key : String) : List Char :=
  Text.dropEndWhile (· == '/') (key.toList.dropWhile (· == '/'))

/-- The instance goes by a key: the key is its slug, or the end of its identity after a slash. -/
def goesBy (key : String) (i : Instance) : Bool :=
  i.slug == key || Text.endsWith ('/' :: bareKey key) i.id.toList

/-- The instance of a type under a key: by identity, or else by slug or by the end of an identity;
or else any instance with the identity. -/
def lookup (g : Graph) (type key : String) : Except Failure Instance :=
  match (g.find? key).filter fun i => i.type == type with
  | some i => .ok i
  | none => match (g.ofType type).find? (goesBy key) with
    | some i => .ok i
    | none => g.get key

/-- The references in a field: the items of a list, or the one value. -/
def referencesIn (i : Instance) (field : String) : List Value :=
  let v := i.value field
  v.items?.getD [v]

/-- The instances that references lead to; a reference that leads nowhere is passed over. -/
def followed (g : Graph) (references : List Value) : List Instance :=
  references.filterMap fun v => (referenceOf v).text?.bind g.find?

/-- How a graph shows itself. -/
def toText (g : Graph) : String :=
  "QueryContext(" ++ Text.quoted g.base ++ ", instances=" ++ toString g.entries.length ++ ")"

/-- A name of an accessor has a capital first. -/
def isAccessorName (name : String) : Bool :=
  match name.toList with
  | c :: _ => Text.isUpperCase c
  | [] => false

/-- How the member of a graph with a name shows itself: an accessor of a type, or the base. -/
def member (g : Graph) (name : String) : Except Failure String :=
  if isAccessorName name then .ok ("TypeAccessor(" ++ Text.quoted name ++ ")")
  else if name = "context" then .ok (Text.quoted g.base)
  else .error (.unknownMember .queryContext name)

/-! ## Laws -/

/-- An added instance is found under every identity that resolves to its own. -/
theorem find?_add (g : Graph) (i : Instance) (id : String) :
    (g.add i).find? id = if g.resolve i.id = g.resolve id then some (g.adopted i) else g.find? id :=
  Entries.get?_put _ _ _ _

/-- A removed instance is found no more; the others stay. -/
theorem find?_remove (g : Graph) (id id' : String) :
    (g.remove id).find? id' = if g.resolve id = g.resolve id' then none else g.find? id' :=
  Entries.get?_erase _ _ _

end Graph

end Entity
