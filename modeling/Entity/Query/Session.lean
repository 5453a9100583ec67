import Entity.Query.Collection

/-!
# Query sessions

A session works on a graph, with names for collections and for lists that grow.  A failing operation
keeps what was noted before it failed, and changes nothing else.
-/

namespace Entity

/-- What a name stands for in a session. -/
inductive Named where
  /-- A list that grows, by number. -/
  | list (number : Nat)
  | collection (c : Collection)
  deriving Inhabited

/-- A graph, lists that grow, and names. -/
structure Session where
  sources : Sources
  names : Entries String Named := []
  deriving Inhabited

/-- An operation on a session; its failure undoes its changes but not its journal. -/
abbrev Query := StateT Session (ExceptT Failure (StateM Journal))

namespace Query

/-- A result or a failure. -/
def ofResult {α : Type} : Except Failure α → Query α
  | .ok a => pure a
  | .error e => throw e

/-! ## Names -/

/-- What a name stands for. -/
def named (name : String) : Query Named := do
  match Entries.get? name (← get).names with
  | some n => return n
  | none => throw (.fault .missingKey (Text.quoted name))

/-- Let a name stand for something. -/
def bindName (name : String) (n : Named) : Query Unit :=
  modify fun s => { s with names := Entries.put name n s.names }

/-- The collection that a name stands for. -/
def collection (name : String) : Query Collection := do
  match ← named name with
  | .collection c => return c
  | .list _ => throw (Value.noMember (.list []) "to_list")

/-- The number of the list that a name stands for. -/
def list (name : String) : Query Nat := do
  match ← named name with
  | .list i => return i
  | .collection _ =>
    throw (.fault .missingAttribute "'Collection' object has no attribute 'append'")

/-- A collection over what a name stands for. -/
def collectionFrom (name : String) : Query Collection := do
  match ← named name with
  | .list i => return .live i
  | .collection c => return c

/-! ## Lists that grow -/

/-- Let a name stand for a new list with the items of a value; the number of items. -/
def addList (name : String) (v : Value) : Query Nat := do
  let items ← ofResult (itemsOf v)
  let lists := (← get).sources.lists
  modify fun s => { s with sources.lists := lists ++ [items] }
  bindName name (.list lists.length)
  return items.length

/-- Append an item to a list; the number of items. -/
def append (name : String) (item : Value) : Query Nat := do
  let i ← list name
  let items := (← get).sources.listAt i ++ [item]
  modify fun s => { s with sources.lists := s.sources.lists.set i items }
  return items.length

/-! ## Reading and writing -/

/-- Use what a consumer reads. -/
def reading {α : Type} (f : Sources → Reading α) : Query α := do
  let (journal, result) := f (← get).sources
  modifyThe Journal (· ++ journal)
  ofResult result

/-- The graph. -/
def graph : Query Graph := do return (← get).sources.graph

/-- Add an instance to the graph; the instance as the graph holds it. -/
def register (v : Value) : Query Instance := do
  let i ← ofResult (Instance.ofValue v)
  let g ← graph
  modify fun s => { s with sources.graph := g.add i }
  return g.adopted i

/-- Remove an instance from the graph; whether there was one. -/
def remove (id : String) : Query Bool := do
  let g ← graph
  modify fun s => { s with sources.graph := g.remove id }
  return g.has id

/-- The instances that a field of an instance leads to; the instance is given by itself or by its
identity. -/
def follow (subject : Value) (field : String) : Query Collection := do
  let i ← match subject.instance?, subject with
    | some i, _ => pure i
    | none, .text id => do ofResult ((← graph).get id)
    | none, v => throw (Value.noMember v "startswith")
  return .followed (Graph.referencesIn i field)

/-- Call the accessor of a type: a text looks an instance up, anything else filters the instances.
-/
def access (type : String) (args : List Value) : Query (Instance ⊕ Collection) := do
  match args with
  | [] => return .inr (.instancesOf type)
  | [.text key] => return .inl (← ofResult ((← graph).lookup type key))
  | [filter] => return .inr (.filter filter (.instancesOf type))
  | _ => throw (Value.badType "TypeAccessor.__call__() takes from 1 to 2 positional arguments")

/-- Run an operation: what was noted, its result, and the session after it. -/
def run {α : Type} (x : Query α) (s : Session) : Journal × Except Failure α × Session :=
  match (StateT.run x s).run.run [] with
  | (.ok (a, s), journal) => (journal, .ok a, s)
  | (.error e, journal) => (journal, .error e, s)

end Query

end Entity
