import Entity.Entries
import Entity.Number.Binary64

/-!
# TOML documents

The tables of a TOML document while it is read.  A table may be opened by a header, by a dotted key
or in place; what was opened in one way may not be opened again in another.  The rules are kept as
two sets of paths: those that are closed for good, with everything below them, and those that no
further header may open.
-/

namespace Entity.Toml

/-- A value of a document.  Times and dates are kept as text. -/
inductive Node where
  | text (s : String)
  | integer (n : Int)
  | float (x : Binary64)
  | boolean (b : Bool)
  | time (s : String)
  | array (items : List Node)
  | table (entries : List (String × Node))
  deriving Inhabited

/-- The entries of a table. -/
abbrev Table := Entries String Node

/-- A dotted key. -/
abbrev Path := List String

/-- The value counts as false: zero and everything empty. -/
def Node.isFalsy : Node → Bool
  | text s => s.isEmpty
  | integer n => n == 0
  | float x => x.isZero
  | boolean b => !b
  | time _ => false
  | array items => items.isEmpty
  | table entries => entries.isEmpty

/-! ## Tables at paths -/

/-- Change the table at a path; tables that are missing on the way are made, and an array stands for
its last table where `throughArrays` allows it. -/
def changeAt (throughArrays : Bool) (f : Table → Option Table) : Path → Table → Option Table
  | [], t => f t
  | k :: ks, t => match Entries.get? k t with
    | none => (changeAt throughArrays f ks []).map fun inner => Entries.put k (.table inner) t
    | some (.table inner) =>
      (changeAt throughArrays f ks inner).map fun inner => Entries.put k (.table inner) t
    | some (.array items) => match throughArrays, items.getLast? with
      | true, some (.table inner) => (changeAt throughArrays f ks inner).map fun inner =>
          Entries.put k (.array (items.dropLast ++ [.table inner])) t
      | _, _ => none
    | some _ => none

/-- Put a value under a key that is not taken. -/
def putNew (key : String) (v : Node) (t : Table) : Option Table :=
  if Entries.has key t then none else some (Entries.put key v t)

/-- Add an empty table to the array under a key. -/
def addTable (key : String) (t : Table) : Option Table :=
  match Entries.get? key t with
  | none => some (Entries.put key (.array [.table []]) t)
  | some (.array items) => some (Entries.put key (.array (items ++ [.table []])) t)
  | some _ => none

/-! ## Paths that are closed -/

/-- What may not be opened again. -/
structure Closed where
  /-- Paths that are closed for good, with everything below them. -/
  frozen : List Path := []
  /-- Paths that no further header and no dotted key may open. -/
  opened : List Path := []
  deriving Inhabited

/-- A path is closed for good. -/
def Closed.isFrozen (c : Closed) (path : Path) : Bool := c.frozen.any fun p => p.isPrefixOf path

/-- No header may open a path. -/
def Closed.isOpened (c : Closed) (path : Path) : Bool := c.opened.contains path

/-- Close a path for good. -/
def Closed.freeze (c : Closed) (path : Path) : Closed := { c with frozen := path :: c.frozen }

/-- Allow no further header for a path. -/
def Closed.markOpened (c : Closed) (path : Path) : Closed := { c with opened := path :: c.opened }

/-- Forget all rules about a path and what is below it. -/
def Closed.forget (c : Closed) (path : Path) : Closed where
  frozen := c.frozen.filter fun p => !path.isPrefixOf p
  opened := c.opened.filter fun p => !path.isPrefixOf p

/-- A value is closed for good once it is written. -/
def Node.isContainer : Node → Bool
  | array _ => true
  | table _ => true
  | _ => false

/-! ## Statements -/

/-- A document while it is read. -/
structure Document where
  root : Table := []
  closed : Closed := {}
  /-- Paths that are marked as opened before the next header. -/
  pending : List Path := []
  /-- The path of the last header. -/
  header : Path := []
  deriving Inhabited

namespace Document

/-- Mark the pending paths. -/
def settle (d : Document) : Document :=
  { d with closed := d.pending.foldl Closed.markOpened d.closed, pending := [] }

/-- Open a table by a header. -/
def openTable (d : Document) (path : Path) : Option Document :=
  let d := d.settle
  if d.closed.isOpened path || d.closed.isFrozen path then none
  else (changeAt true some path d.root).map fun root =>
    { d with root, closed := d.closed.markOpened path, header := path }

/-- Open the next table of an array by a header. -/
def openArrayTable (d : Document) (path : Path) : Option Document :=
  let d := d.settle
  match path.getLast? with
  | none => none
  | some key =>
    if d.closed.isFrozen path then none
    else (changeAt true (addTable key) path.dropLast d.root).map fun root =>
      { d with root, closed := (d.closed.forget path).markOpened path, header := path }

/-- The paths on the way to a dotted key below the last header. -/
def wayTo (d : Document) (key : Path) : List Path :=
  (List.range (key.length - 1)).map fun i => d.header ++ key.take (i + 1)

/-- Write a value under a dotted key below the last header. -/
def assign (d : Document) (key : Path) (v : Node) : Option Document :=
  let way := d.wayTo key
  let parent := d.header ++ key.dropLast
  match key.getLast? with
  | none => none
  | some last =>
    if way.any d.closed.isOpened || d.closed.isFrozen parent then none
    else (changeAt true (putNew last v) parent d.root).map fun root =>
      { d with
        root
        pending := d.pending ++ way
        closed := if v.isContainer then d.closed.freeze (d.header ++ key) else d.closed }

end Document

/-! ## Tables in place -/

/-- A table in place while it is read, with the paths that are closed in it. -/
structure Inline where
  root : Table := []
  frozen : List Path := []
  deriving Inhabited

/-- Write a value under a dotted key of a table in place. -/
def Inline.assign (t : Inline) (key : Path) (v : Node) : Option Inline :=
  match key.getLast? with
  | none => none
  | some last =>
    if t.frozen.any fun p => p.isPrefixOf key then none
    else (changeAt false (putNew last v) key.dropLast t.root).map fun root =>
      { root, frozen := if v.isContainer then key :: t.frozen else t.frozen }

end Entity.Toml
