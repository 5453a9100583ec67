/-!
# Insertion-ordered mappings

A mapping is the list of its entries in the order in which the keys first came.  Writing to a key
that is present keeps its place; a new key goes to the end.  Main statements: what each operation
does to the value found under a key and to the list of keys.
-/

namespace Entity

/-- The entries of a mapping, in insertion order. -/
abbrev Entries (κ : Type) (α : Type) := List (κ × α)

namespace Entries

variable {κ α β : Type} [DecidableEq κ]

/-! ## Operations -/

/-- The keys, in order. -/
def keys (m : Entries κ α) : List κ := m.map Prod.fst

/-- The value under a key. -/
def get? (k : κ) : Entries κ α → Option α
  | [] => none
  | (k', a) :: m => if k' = k then some a else get? k m

/-- The key is present. -/
def has (k : κ) (m : Entries κ α) : Bool := (get? k m).isSome

/-- Write a value under a key. -/
def put (k : κ) (a : α) : Entries κ α → Entries κ α
  | [] => [(k, a)]
  | (k', a') :: m => if k' = k then (k', a) :: m else (k', a') :: put k a m

/-- Remove a key. -/
def erase (k : κ) (m : Entries κ α) : Entries κ α := m.filter fun e => e.1 ≠ k

/-- Write all entries of `extra`, in order. -/
def merge (m extra : Entries κ α) : Entries κ α := extra.foldl (fun m e => put e.1 e.2 m) m

/-- The mapping that results from writing the entries in order. -/
def ofList (es : List (κ × α)) : Entries κ α := merge [] es

/-- Apply a function to every value. -/
def mapValues (f : α → β) (m : Entries κ α) : Entries κ β := m.map fun e => (e.1, f e.2)

/-! ## Laws -/

@[simp] theorem get?_nil (k : κ) : get? k ([] : Entries κ α) = none := rfl

theorem get?_cons (k k' : κ) (a : α) (m : Entries κ α) :
    get? k ((k', a) :: m) = if k' = k then some a else get? k m := rfl

/-- A write is seen under its own key and nowhere else. -/
theorem get?_put (k k' : κ) (a : α) (m : Entries κ α) :
    get? k' (put k a m) = if k = k' then some a else get? k' m := by
  induction m with
  | nil => simp [put, get?_cons]
  | cons e m ih =>
    unfold put
    by_cases h : e.1 = k
    · grind [get?]
    · grind [get?]

/-- A removed key is absent; the other keys keep their values. -/
theorem get?_erase (k k' : κ) (m : Entries κ α) :
    get? k' (erase k m) = if k = k' then none else get? k' m := by
  induction m with
  | nil => simp [erase]
  | cons e m ih => grind [get?, erase]

/-- A write under a present key keeps the keys; a write under a new key appends it. -/
theorem keys_put (k : κ) (a : α) (m : Entries κ α) :
    keys (put k a m) = if k ∈ keys m then keys m else keys m ++ [k] := by
  induction m with
  | nil => simp [put, keys]
  | cons e m ih =>
    unfold put
    by_cases h : e.1 = k
    · grind [keys]
    · grind [keys]

/-- A key is present exactly when it is listed. -/
theorem mem_keys_iff {k : κ} {m : Entries κ α} : k ∈ keys m ↔ (get? k m).isSome := by
  induction m with
  | nil => simp [keys]
  | cons e m ih =>
    obtain ⟨k₀, a₀⟩ := e
    simp only [keys, List.map_cons, List.mem_cons, get?_cons] at ih ⊢
    by_cases h : k₀ = k
    · simp [h]
    · simp [h, Ne.symm h, ih]

end Entries

end Entity
