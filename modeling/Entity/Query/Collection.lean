import Entity.Callable.Application
import Entity.Query.Graph

/-!
# Lazy collections

A collection is a recipe: a source of items and what is done with them.  Each run reads the source
anew and emits items, one by one, with the calls of traced functions between them; a run ends early
when a function fails.  Consumers read as much of a run as they need.
-/

namespace Entity

/-! ## Runs -/

/-- What a run emits. -/
inductive Emission where
  | happened (h : Happening)
  | item (v : Value)
  /-- The run ends with a failure. -/
  | failed (e : Failure)
  deriving Inhabited

/-- What runs read: the graph, and lists that grow. -/
structure Sources where
  graph : Graph
  lists : List (List Value) := []
  deriving Inhabited

/-- A list that grows, by number. -/
def Sources.listAt (s : Sources) (i : Nat) : List Value := s.lists[i]?.getD []

/-- A recipe for items. -/
inductive Collection where
  | items (vs : List Value)
  /-- The items of a list that grows. -/
  | live (list : Nat)
  /-- The instances of a type. -/
  | instancesOf (type : String)
  /-- The instances that references lead to. -/
  | followed (references : List Value)
  /-- The items that meet criteria. -/
  | meeting (criteria : Entries String Value) (source : Collection)
  /-- The items for which a function answers something that counts as true. -/
  | filtered (test : Value) (source : Collection)
  /-- What a function answers for each item. -/
  | mapped (f : Value) (source : Collection)
  /-- The items of what a function answers for each item. -/
  | expanded (f : Value) (source : Collection)
  deriving Inhabited

/-! ## Calling functions on items -/

/-- What functions answer for an item, and the calls of traced functions that this takes. -/
abbrev Calling := Callable → Value → Journal × Except Failure Value

/-- Call a value on an item, and go on with what it answers. -/
def callOn (f item : Value) (k : Value → List Emission) (call : Calling := Callable.onItem) :
    List Emission :=
  match f with
  | .function f =>
    let (calls, result) := call f item
    calls.map .happened ++ (match result with
      | .ok v => k v
      | .error e => [.failed e])
  | v => [.failed (Value.badType ("'" ++ v.kindName ++ "' object is not callable"))]

/-- The items of a value: of a list or tuple, the characters of a text, the keys of a mapping, the
bytes, and the attributes of an instance. -/
def itemsOf (v : Value) : Except Failure (List Value) :=
  match v with
  | .list items | .tuple items => .ok items
  | .text s => .ok (s.toList.map fun c => .text (String.singleton c))
  | .map entries => .ok (entries.map fun e => .text e.1)
  | .bytes bs => .ok (bs.map fun b => .int b.toNat)
  | .entity id type version data context =>
    let attributes : Entries String Value := [("kind", .text "instance"), ("id", .text id),
      ("type", .text type), ("version", .int version), ("data", .map data),
      ("context", Value.ofText? context)]
    .ok (attributes.map fun (name, v) => .tuple [.text name, v])
  | v => .error (Value.badType ("'" ++ v.kindName ++ "' object is not iterable"))

/-- Emit the items of a value. -/
def emitItems (v : Value) : List Emission :=
  match itemsOf v with
  | .ok items => items.map .item
  | .error e => [.failed e]

/-- Replace every item of a run by emissions; a failure ends the run. -/
def onItems (k : Value → List Emission) : List Emission → List Emission
  | [] => []
  | .happened h :: run => .happened h :: onItems k run
  | .failed e :: _ => [.failed e]
  | .item v :: run => k v ++ onItems k run

/-! ## Running a collection -/

namespace Collection

/-- What a run of a collection emits. -/
def run (s : Sources) (c : Collection) (call : Calling := Callable.onItem) : List Emission :=
  match c with
  | items vs => vs.map .item
  | live i => (s.listAt i).map .item
  | instancesOf type => (s.graph.ofType type).map fun i => .item i.toValue
  | followed references => (s.graph.followed references).map fun i => .item i.toValue
  | meeting criteria source =>
    onItems (fun v => if meets v criteria then [.item v] else []) (run s source call)
  | filtered test source =>
    onItems (fun v => callOn test v (fun b => if b.isTruthy then [.item v] else []) call)
      (run s source call)
  | mapped f source => onItems (fun v => callOn f v (fun w => [.item w]) call) (run s source call)
  | expanded f source => onItems (fun v => callOn f v emitItems call) (run s source call)

/-- Keep the items that a filter admits: criteria, or a function; without a filter all are kept. -/
def filter (filter : Value) (c : Collection) : Collection :=
  match filter with
  | .null => c
  | .map criteria => meeting criteria c
  | f => filtered f c

/-- How a collection shows itself. -/
def text : String := "Collection(<lazy>)"

end Collection

/-! ## Consumers -/

/-- What a consumer learns from a run: what happened while it read, and its result. -/
abbrev Reading (α : Type) := Journal × Except Failure α

/-- The items of a run. -/
def allItems : List Emission → Reading (List Value)
  | [] => ([], .ok [])
  | .failed e :: _ => ([], .error e)
  | .happened h :: run =>
    let (journal, result) := allItems run
    (h :: journal, result)
  | .item v :: run =>
    let (journal, result) := allItems run
    (journal, result.map (v :: ·))

/-- The first item of a run, or nothing. -/
def firstItem : List Emission → Reading Value
  | [] => ([], .ok .null)
  | .failed e :: _ => ([], .error e)
  | .happened h :: run =>
    let (journal, result) := firstItem run
    (h :: journal, result)
  | .item v :: _ => ([], .ok v)

namespace Collection

/-- The items of a collection. -/
def toList (s : Sources) (c : Collection) (call : Calling := Callable.onItem) :
    Reading (List Value) :=
  allItems (c.run s call)

/-- The number of items of a collection. -/
def count (s : Sources) (c : Collection) (call : Calling := Callable.onItem) : Reading Nat :=
  let (journal, result) := c.toList s call
  (journal, result.map List.length)

/-- The first item of a collection, or nothing. -/
def first (s : Sources) (c : Collection) (call : Calling := Callable.onItem) : Reading Value :=
  firstItem (c.run s call)

/-- The first item for which a function answers something that counts as true, or nothing. -/
def find (s : Sources) (test : Value) (c : Collection) (call : Calling := Callable.onItem) :
    Reading Value :=
  (filtered test c).first s call

end Collection

/-! ## Laws -/

/-- A run of items alone is read as those items. -/
@[simp] theorem allItems_map_item (vs : List Value) :
    allItems (vs.map .item) = ([], .ok vs) := by
  induction vs with
  | nil => rfl
  | cons v vs ih => simp [allItems, ih, Except.map]

end Entity
