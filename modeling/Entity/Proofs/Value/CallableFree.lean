import Entity.Json.Reader
import Entity.Proofs.Entries
import Entity.Proofs.Outcome
import Mathlib.Tactic.Common

/-!
# Values without functions

A value is free of callables when no function occurs in it at any depth.  Main statements: taking
values apart and putting mappings together keeps them free, and whatever is read from a JSON text is
free.
-/

namespace Entity

open Entries

/-! ## Free values -/

namespace Value

/-- The values that stand directly in a value. -/
def members : Value → List Value
  | list items => items
  | tuple items => items
  | map entries => entries.map Prod.snd
  | entity _ _ _ data _ => data.map Prod.snd
  | record _ attributes => attributes.map Prod.snd
  | _ => []

/-- The value is a function, or it selects by one. -/
def isCallable : Value → Bool
  | function _ => true
  | query _ _ => true
  | _ => false

/-- No function occurs in the value, at any depth. -/
inductive CallableFree : Value → Prop
  | intro {v : Value} (here : v.isCallable = false) (members : ∀ m ∈ v.members, CallableFree m) :
      CallableFree v

variable {v : Value}

theorem CallableFree.here (h : v.CallableFree) : v.isCallable = false := by
  cases h
  assumption

theorem CallableFree.members (h : v.CallableFree) : ∀ m ∈ v.members, m.CallableFree := by
  cases h
  assumption

/-- A value without members is free, unless it is a function itself. -/
theorem callableFree_of_leaf (here : v.isCallable = false) (hmembers : v.members = []) :
    v.CallableFree :=
  .intro here (by simp [hmembers])

@[simp] theorem callableFree_null : CallableFree null := callableFree_of_leaf rfl rfl

@[simp] theorem callableFree_text (s : String) : (text s).CallableFree :=
  callableFree_of_leaf rfl rfl

theorem CallableFree.ne_function (h : v.CallableFree) (f : Callable) : v ≠ .function f := by
  rintro rfl
  cases h.here

@[simp] theorem callableFree_list {items : List Value} :
    (list items).CallableFree ↔ ∀ v ∈ items, v.CallableFree :=
  ⟨CallableFree.members, fun h => .intro rfl h⟩

@[simp] theorem callableFree_tuple {items : List Value} :
    (tuple items).CallableFree ↔ ∀ v ∈ items, v.CallableFree :=
  ⟨CallableFree.members, fun h => .intro rfl h⟩

/-- All values of a mapping are free. -/
def AllFree (es : Entries String Value) : Prop := ∀ e ∈ es, e.2.CallableFree

@[simp] theorem callableFree_map {es : Entries String Value} :
    (map es).CallableFree ↔ AllFree es := by
  constructor
  · intro h e he
    exact h.members e.2 (List.mem_map_of_mem he)
  · intro h
    refine .intro rfl fun m hm => ?_
    obtain ⟨e, he, rfl⟩ := List.mem_map.mp hm
    exact h e he

/-! ## Mappings -/

@[simp] theorem allFree_nil : AllFree [] := by simp [AllFree]

@[simp] theorem allFree_cons {e : String × Value} {es : Entries String Value} :
    AllFree (e :: es) ↔ e.2.CallableFree ∧ AllFree es := by
  simp only [AllFree, List.forall_mem_cons]

@[simp] theorem allFree_append {es es' : Entries String Value} :
    AllFree (es ++ es') ↔ AllFree es ∧ AllFree es' := by
  simp only [AllFree, List.forall_mem_append]

theorem AllFree.of_subset {es es' : Entries String Value} (h : AllFree es') (hsub : es ⊆ es') :
    AllFree es := fun e he => h e (hsub he)

theorem AllFree.put {es : Entries String Value} (h : AllFree es) {v : Value} (hv : v.CallableFree)
    (key : String) : AllFree (put key v es) := by
  intro e he
  rcases eq_or_mem_of_mem_put he with rfl | he
  · exact hv
  · exact h e he

theorem AllFree.merge {es extra : Entries String Value} (h : AllFree es) (hextra : AllFree extra) :
    AllFree (merge es extra) := by
  induction extra generalizing es with
  | nil => exact h
  | cons e extra ih =>
      rw [allFree_cons] at hextra
      exact ih (h.put hextra.1 e.1) hextra.2

theorem AllFree.ofList {es : List (String × Value)} (h : AllFree es) : AllFree (ofList es) :=
  allFree_nil.merge h

theorem AllFree.of_get? {es : Entries String Value} (h : AllFree es) {key : String} {v : Value}
    (hv : get? key es = some v) : v.CallableFree :=
  h _ (mem_of_get?_eq_some hv)

/-- What is looked up among free values is free, also when it is not there. -/
theorem AllFree.getD {es : Entries String Value} (h : AllFree es) (key : String) {default : Value}
    (hdefault : default.CallableFree) : ((get? key es).getD default).CallableFree := by
  cases hv : get? key es with
  | none => exact hdefault
  | some v => exact h.of_get? hv

theorem AllFree.lookup {es : Entries String Value} (h : AllFree es) (key : String) :
    (Value.lookup es key).CallableFree := h.getD key callableFree_null

end Value

/-! ## JSON -/

namespace Json

open Value

theorem callableFree_of_wordValues : ∀ e ∈ wordValues, e.2.CallableFree := by
  intro e he
  simp only [wordValues, List.mem_cons, List.not_mem_nil, or_false] at he
  rcases he with rfl | rfl | rfl | rfl | rfl | rfl <;> exact callableFree_of_leaf rfl rfl

theorem callableFree_of_number {cs rest : List Char} {v : Value}
    (h : number cs = .ok (v, rest)) : v.CallableFree := by
  unfold number at h
  dsimp only at h
  split at h
  -- with and without a sign
  all_goals
    split at h
    · cases h
    · split at h
      · split at h
        · cases h
          exact callableFree_of_leaf rfl rfl
        · cases h
      · cases h
        exact callableFree_of_leaf rfl rfl

theorem callableFree_of_atom {cs rest : List Char} {v : Value} (h : atom cs = .ok (v, rest)) :
    v.CallableFree := by
  unfold atom at h
  split at h
  · rename_i found hfound
    cases h
    obtain ⟨e, he, hword⟩ := List.exists_of_findSome?_eq_some hfound
    obtain ⟨r, -, hpair⟩ := Option.map_eq_some_iff.mp hword
    cases hpair
    exact callableFree_of_wordValues e he
  · exact callableFree_of_number h

/-- What is read with some fuel is free: a value, the items of a list, the entries of a mapping. -/
structure ReadsFree (fuel : Nat) : Prop where
  value : ∀ {room : Nat} {cs rest : List Char} {v : Value},
    value fuel room cs = .ok (v, rest) → v.CallableFree
  items : ∀ {room : Nat} {cs rest : List Char} {vs : List Value},
    items fuel room cs = .ok (vs, rest) → ∀ v ∈ vs, v.CallableFree
  entries : ∀ {room : Nat} {cs rest : List Char} {es : List (String × Value)},
    entries fuel room cs = .ok (es, rest) → AllFree es

theorem ReadsFree.value_succ {fuel : Nat} (ih : ReadsFree fuel) {room : Nat}
    {cs rest : List Char} {v : Value} (h : Json.value (fuel + 1) room cs = .ok (v, rest)) :
    v.CallableFree := by
  unfold Json.value at h
  split at h
  · cases h
  · obtain ⟨⟨s, after⟩, -, h⟩ := bind_eq_ok.mp h
    cases h
    exact callableFree_text s
  · split at h
    · cases h
    · split at h
      · cases h
        simp
      · obtain ⟨⟨vs, after⟩, hvs, h⟩ := bind_eq_ok.mp h
        cases h
        exact callableFree_list.mpr (ih.items hvs)
  · split at h
    · cases h
    · split at h
      · cases h
        simp
      · obtain ⟨⟨es, after⟩, hes, h⟩ := bind_eq_ok.mp h
        cases h
        exact callableFree_map.mpr (ih.entries hes).ofList
  · exact callableFree_of_atom h

theorem ReadsFree.items_succ {fuel : Nat} (ih : ReadsFree fuel) {room : Nat}
    {cs rest : List Char} {vs : List Value} (h : Json.items (fuel + 1) room cs = .ok (vs, rest)) :
    ∀ v ∈ vs, v.CallableFree := by
  unfold Json.items at h
  obtain ⟨⟨v, after⟩, hv, h⟩ := bind_eq_ok.mp h
  dsimp only at h
  split at h
  · cases h
    simpa using ih.value hv
  · obtain ⟨⟨vs', after'⟩, hvs, h⟩ := bind_eq_ok.mp h
    cases h
    exact List.forall_mem_cons.mpr ⟨ih.value hv, ih.items hvs⟩
  · cases h

theorem ReadsFree.entries_succ {fuel : Nat} (ih : ReadsFree fuel) {room : Nat}
    {cs rest : List Char} {es : List (String × Value)}
    (h : Json.entries (fuel + 1) room cs = .ok (es, rest)) : AllFree es := by
  unfold Json.entries at h
  split at h
  · obtain ⟨⟨key, after⟩, -, h⟩ := bind_eq_ok.mp h
    dsimp only at h
    split at h
    · obtain ⟨⟨v, after'⟩, hv, h⟩ := bind_eq_ok.mp h
      dsimp only at h
      split at h
      · cases h
        simpa using ih.value hv
      · obtain ⟨⟨es', after''⟩, hes, h⟩ := bind_eq_ok.mp h
        cases h
        exact allFree_cons.mpr ⟨ih.value hv, ih.entries hes⟩
      · cases h
    · cases h
  · cases h

theorem readsFree (fuel : Nat) : ReadsFree fuel := by
  induction fuel with
  | zero =>
      constructor
      · intro room cs rest v h
        cases h
      · intro room cs rest vs h
        cases h
      · intro room cs rest es h
        cases h
  | succ fuel ih => exact ⟨ih.value_succ, ih.items_succ, ih.entries_succ⟩

/-- **No text denotes a function.** -/
theorem callableFree_of_ofText {text : String} {v : Value} (h : ofText text = .ok v) :
    v.CallableFree := by
  unfold ofText at h
  cases hdocument : document text.toList with
  | error e =>
      rw [hdocument] at h
      cases h
  | ok v' =>
      rw [hdocument] at h
      cases h
      unfold document at hdocument
      split at hdocument
      · cases hdocument
      · obtain ⟨⟨v', rest⟩, hv', hrest⟩ := bind_eq_ok.mp hdocument
        dsimp only at hrest
        split at hrest
        · cases hrest
          exact (readsFree _).value hv'
        · cases hrest

end Json

end Entity
