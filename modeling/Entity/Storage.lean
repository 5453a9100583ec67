import Entity.Value.Arithmetic

/-!
# Storage

What a definition is bound to: values under keys.  The keys `$` and `$version` hold the serialized
definition and the version that was applied last; every other key is the identity of an instance.
Main statement: a listing is sorted by key and holds each entry of the storage once.
-/

namespace Entity

/-- Values under keys. -/
abbrev Storage := Entries String Value

namespace Storage

/-- The key of the serialized definition. -/
def definitionKey : String := "$"

/-- The key of the version that was applied last, in storage and in the payload of an instance. -/
def versionKey : String := "$version"

/-- The value under a key; nothing if the key is absent. -/
def read (s : Storage) (key : String) : Value := Value.lookup s key

/-- The key is present; what cannot be a key is refused. -/
def holds (s : Storage) (key : Value) : Except Failure Bool :=
  match key with
  | .text key => .ok (Entries.has key s)
  | v => if v.isKey then .ok false else .error v.noKey

/-- The first entries, as many as `limit` says; a negative limit leaves out as many at the end. -/
def firstEntries (limit : Int) (es : Entries String Value) : Entries String Value :=
  if 0 ≤ limit then es.take limit.toNat else es.take (es.length - (-limit).toNat)

/-- The entries in the order of their keys. -/
def sorted (s : Storage) : Entries String Value := s.mergeSort fun a b => decide (a.1 ≤ b.1)

/-- The entries whose keys begin with `start`, in the order of their keys, up to a limit. -/
def list (s : Storage) (start : String) (limit : Option Int) : Entries String Value :=
  let es := sorted (s.filter fun e => start.toList.isPrefixOf e.1.toList)
  match limit with
  | some limit => firstEntries limit es
  | none => es

/-! ## Laws -/

/-- Sorting keeps the entries. -/
theorem sorted_perm (s : Storage) : (sorted s).Perm s := List.mergeSort_perm s _

/-- The keys of the sorted entries never descend. -/
theorem pairwise_sorted (s : Storage) : (sorted s).Pairwise fun a b => a.1 ≤ b.1 := by
  have h : (sorted s).Pairwise fun a b => decide (a.1 ≤ b.1) = true :=
    List.pairwise_mergeSort (fun a b c => by simpa using String.le_trans)
      (fun a b => by simpa using String.le_total a.1 b.1) s
  exact h.imp fun hab => by simpa using hab

end Storage

end Entity
