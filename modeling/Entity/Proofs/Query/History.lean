import Entity.Proofs.Entries
import Entity.Query.Session
import Mathlib.Data.List.Induction
import Mathlib.Data.List.Nodup
import Mathlib.Data.String.Basic
import Mathlib.Tactic.Common

/-!
# Graphs are maps over their history

A graph is changed by edits: a value is registered, or an identity is removed.  What a graph answers
is told by the history of its edits alone: under each absolute identity it holds what was registered
there last, unless the identity was removed since; and it lists what it holds in the order in which
the identities came, where one that comes again after its removal is new.  Main statement: every
answer of a session, after whatever edits, is the one that the history tells.
-/

namespace Entity

/-! ## Edits -/

/-- A change of the graph of a session. -/
inductive Edit where
  /-- An instance, or a mapping that stands for one, is registered. -/
  | register (v : Value)
  | remove (id : String)

namespace Query

/-- Registering adds the instance that a value stands for; without one it fails. -/
theorem run_register (v : Value) (s : Session) :
    run (register v) s = match Instance.ofValue v with
      | .ok i => ([], .ok (s.sources.graph.adopted i),
          { s with sources.graph := s.sources.graph.add i })
      | .error e => ([], .error e, s) := by
  unfold register
  cases Instance.ofValue v <;> rfl

/-- Removing answers whether there was an instance. -/
theorem run_remove (id : String) (s : Session) :
    run (remove id) s = ([], .ok (s.sources.graph.has id),
      { s with sources.graph := s.sources.graph.remove id }) := rfl

end Query

/-- The session after an edit. -/
def Edit.next (s : Session) : Edit → Session
  | register v => (Query.run (Query.register v) s).2.2
  | remove id => (Query.run (Query.remove id) s).2.2

/-- The session after edits, in order. -/
def Session.after (s : Session) (es : List Edit) : Session := es.foldl Edit.next s

/-- The graph after an edit; a value that stands for no instance changes nothing. -/
def Graph.edited (g : Graph) : Edit → Graph
  | .register v => match Instance.ofValue v with
    | .ok i => g.add i
    | .error _ => g
  | .remove id => g.remove id

theorem Edit.graph_next (s : Session) (e : Edit) :
    (Edit.next s e).sources.graph = s.sources.graph.edited e := by
  cases e with
  | register v =>
      simp only [next, Query.run_register, Graph.edited]
      split <;> rfl
  | remove id => rfl

theorem Session.graph_after (s : Session) (es : List Edit) :
    (s.after es).sources.graph = es.foldl Graph.edited s.sources.graph := by
  induction es generalizing s with
  | nil => rfl
  | cons e es ih =>
      rw [after, List.foldl_cons, ← after, ih, List.foldl_cons, Edit.graph_next]

theorem Graph.base_foldl_edited (g : Graph) (es : List Edit) :
    (es.foldl Graph.edited g).base = g.base := by
  induction es generalizing g with
  | nil => rfl
  | cons e es ih =>
      have hbase : (g.edited e).base = g.base := by
        cases e with
        | register v =>
            rw [edited]
            split <;> rfl
        | remove id => rfl
      rw [List.foldl_cons, ih, hbase]

/-- A graph that is made with values is one in which they were registered in order. -/
theorem Graph.foldl_edited_of_addAll {g g' : Graph} {vs : List Value}
    (h : g.addAll vs = .ok g') : (vs.map Edit.register).foldl Graph.edited g = g' := by
  induction vs generalizing g with
  | nil =>
      cases h
      rfl
  | cons v vs ih =>
      rw [Graph.addAll] at h
      rw [List.map_cons, List.foldl_cons, Graph.edited]
      cases hv : Instance.ofValue v with
      | error e =>
          rw [hv] at h
          cases h
      | ok i =>
          rw [hv] at h
          exact ih h

/-! ## What a history tells -/

/-- The instance as a graph with a base holds it: absolute, and with the base if it has no context.
-/
def Instance.settledOn (base : String) (i : Instance) : Instance :=
  { i with
    id := resolveIdentity base i.id
    context := some ((Text.nonEmpty? i.context).getD base) }

namespace Edit

/-- The edit enters an instance under an absolute identity. -/
def Enters (base : String) (e : Edit) (key : String) (x : Instance) : Prop :=
  ∃ v i, e = register v ∧ Instance.ofValue v = .ok i ∧ resolveIdentity base i.id = key ∧
    x = i.settledOn base

/-- The edit clears an absolute identity. -/
def Clears (base : String) (e : Edit) (key : String) : Prop :=
  ∃ id, e = remove id ∧ resolveIdentity base id = key

/-- The edit enters something under an absolute identity, or clears it. -/
def Touches (base : String) (e : Edit) (key : String) : Prop :=
  (∃ x, e.Enters base key x) ∨ e.Clears base key

end Edit

/-- Since an edit with a property, which may depend on the edits before it, all edits have had
another property. -/
def Since (P : List Edit → Edit → Prop) (Q : Edit → Prop) (es : List Edit) : Prop :=
  ∃ before e after, es = before ++ e :: after ∧ P before e ∧ ∀ e' ∈ after, Q e'

/-- The instance was entered under the identity last, and the identity was not cleared since. -/
def Live (base : String) (es : List Edit) (key : String) (x : Instance) : Prop :=
  Since (fun _ e => e.Enters base key x) (fun e => ¬ e.Touches base key) es

/-- The identity was entered by edit number `n` when nothing was live under it, and it was not
cleared since. -/
def NewAt (base : String) (es : List Edit) (key : String) (n : Nat) : Prop :=
  Since (fun before e => before.length = n ∧ (∃ x, e.Enters base key x) ∧
    ∀ x, ¬ Live base before key x) (fun e => ¬ e.Clears base key) es

section Histories

variable {base key : String} {e : Edit} {es : List Edit}

theorem not_since_nil (P : List Edit → Edit → Prop) (Q : Edit → Prop) : ¬ Since P Q [] := by
  rintro ⟨before, e, after, h, -⟩
  cases before <;> cases h

/-- The last edit has the property, or it is one of those since. -/
theorem since_concat (P : List Edit → Edit → Prop) (Q : Edit → Prop) (es : List Edit) (e : Edit) :
    Since P Q (es ++ [e]) ↔ P es e ∨ Q e ∧ Since P Q es := by
  constructor
  · rintro ⟨before, e', after, h, hP, hQ⟩
    rcases List.eq_nil_or_concat' after with rfl | ⟨after, last, rfl⟩
    · obtain ⟨rfl, hlast⟩ := List.append_inj' h rfl
      cases hlast
      exact Or.inl hP
    · rw [← List.cons_append, ← List.append_assoc] at h
      obtain ⟨rfl, hlast⟩ := List.append_inj' h rfl
      cases hlast
      right
      refine ⟨hQ e (by simp), before, e', after, rfl, hP, ?_⟩
      intro e'' he
      exact hQ e'' (List.mem_append_left _ he)
  · rintro (hP | ⟨hQ, before, e', after, rfl, hP, hafter⟩)
    · exact ⟨es, e, [], rfl, hP, by simp⟩
    · refine ⟨before, e', after ++ [e], by simp, hP, ?_⟩
      intro e'' he
      rcases List.mem_append.mp he with he | he
      · exact hafter e'' he
      · rw [List.mem_singleton.mp he]
        exact hQ

/-! ### Single edits -/

theorem enters_register {v : Value} {i : Instance} (hv : Instance.ofValue v = .ok i)
    (x : Instance) : (Edit.register v).Enters base key x ↔
      resolveIdentity base i.id = key ∧ x = i.settledOn base := by
  constructor
  · rintro ⟨v', i', h, hv', hkey⟩
    cases h
    rw [hv] at hv'
    cases hv'
    exact hkey
  · intro h
    exact ⟨v, i, rfl, hv, h⟩

theorem not_enters_register {v : Value} {f : Failure} (hv : Instance.ofValue v = .error f)
    (x : Instance) : ¬ (Edit.register v).Enters base key x := by
  rintro ⟨v', i, h, hv', -⟩
  cases h
  rw [hv] at hv'
  cases hv'

theorem not_clears_register (v : Value) : ¬ (Edit.register v).Clears base key := by
  rintro ⟨id, h, -⟩
  cases h

theorem not_enters_remove (id : String) (x : Instance) :
    ¬ (Edit.remove id).Enters base key x := by
  rintro ⟨v, i, h, -⟩
  cases h

theorem clears_remove (id : String) :
    (Edit.remove id).Clears base key ↔ resolveIdentity base id = key := by
  constructor
  · rintro ⟨id', h, hkey⟩
    cases h
    exact hkey
  · intro h
    exact ⟨id, rfl, h⟩

/-! ### One more edit -/

/-- An instance that is registered is live in the place of what was live there. -/
theorem live_register {v : Value} {i : Instance} (hv : Instance.ofValue v = .ok i)
    (x : Instance) : Live base (es ++ [.register v]) key x ↔
      if resolveIdentity base i.id = key then x = i.settledOn base else Live base es key x := by
  rw [Live, since_concat, enters_register hv, Edit.Touches]
  simp only [enters_register hv, not_clears_register, or_false]
  split
  · rename_i hkey
    simp [hkey]
  · rename_i hkey
    simp [hkey, Live]

/-- What stands for no instance leaves everything live. -/
theorem live_register_error {v : Value} {f : Failure} (hv : Instance.ofValue v = .error f)
    (x : Instance) : Live base (es ++ [.register v]) key x ↔ Live base es key x := by
  rw [Live, since_concat, Edit.Touches]
  simp [not_enters_register hv, not_clears_register, Live]

/-- Nothing is live under an identity that is removed. -/
theorem live_remove (id : String) (x : Instance) : Live base (es ++ [.remove id]) key x ↔
    resolveIdentity base id ≠ key ∧ Live base es key x := by
  rw [Live, since_concat, Edit.Touches]
  simp [not_enters_remove, clears_remove, Live]

/-- An identity under which something is live keeps its place until it is cleared. -/
theorem NewAt.concat {n : Nat} (h : NewAt base es key n) (he : ¬ e.Clears base key) :
    NewAt base (es ++ [e]) key n :=
  (since_concat _ _ _ _).mpr (Or.inr ⟨he, h⟩)

/-- An identity that is entered while nothing is live under it gets the next place. -/
theorem newAt_length {x : Instance} (he : e.Enters base key x)
    (hkey : ∀ x, ¬ Live base es key x) : NewAt base (es ++ [e]) key es.length :=
  (since_concat _ _ _ _).mpr (Or.inl ⟨rfl, ⟨x, he⟩, hkey⟩)

/-- Something is live under an identity that has a place. -/
theorem NewAt.live {n : Nat} (h : NewAt base es key n) : ∃ x, Live base es key x := by
  induction es using List.reverseRecOn with
  | nil => exact absurd h (not_since_nil _ _)
  | append_singleton es e ih =>
      rcases (since_concat _ _ _ _).mp h with ⟨-, ⟨x, hx⟩, -⟩ | ⟨hclears, h⟩
      · exact ⟨x, (since_concat _ _ _ _).mpr (Or.inl hx)⟩
      · by_cases henters : ∃ x, e.Enters base key x
        · obtain ⟨x, hx⟩ := henters
          exact ⟨x, (since_concat _ _ _ _).mpr (Or.inl hx)⟩
        · obtain ⟨x, hx⟩ := ih h
          refine ⟨x, (since_concat _ _ _ _).mpr (Or.inr ⟨?_, hx⟩)⟩
          rintro (hx | hx)
          · exact henters hx
          · exact hclears hx

/-- An identity has one place: it is not new again while something is live under it. -/
theorem NewAt.unique {m n : Nat} (hm : NewAt base es key m) (hn : NewAt base es key n) :
    m = n := by
  induction es using List.reverseRecOn with
  | nil => exact absurd hm (not_since_nil _ _)
  | append_singleton es e ih =>
      have absent : ∀ {n}, NewAt base es key n → ¬ ∀ x, ¬ Live base es key x := by
        intro n h hnone
        obtain ⟨x, hx⟩ := h.live
        exact hnone x hx
      rcases (since_concat _ _ _ _).mp hm with ⟨hm, -, hnone⟩ | ⟨-, hm⟩ <;>
        rcases (since_concat _ _ _ _).mp hn with ⟨hn, -, hnone'⟩ | ⟨-, hn⟩
      · exact hm.symm.trans hn
      · exact absurd hnone (absent hn)
      · exact absurd hnone' (absent hm)
      · exact ih hm hn

end Histories

/-! ## The order of what is live -/

/-- The identities stand in the order in which they were entered anew. -/
structure Placed (base : String) (es : List Edit) (keys : List String) : Prop where
  place : ∀ key ∈ keys, ∃ n < es.length, NewAt base es key n
  ordered : keys.Pairwise fun key key' =>
    ∃ m n, NewAt base es key m ∧ NewAt base es key' n ∧ m < n

namespace Placed

variable {base : String} {es : List Edit} {keys keys' : List String} {e : Edit}

/-- Identities that an edit does not clear keep their order. -/
theorem concat (h : Placed base es keys) (hkeys : keys'.Sublist keys)
    (he : ∀ key ∈ keys', ¬ e.Clears base key) : Placed base (es ++ [e]) keys' := by
  constructor
  · intro key hkey
    obtain ⟨n, hn, hnew⟩ := h.place key (hkeys.subset hkey)
    refine ⟨n, ?_, hnew.concat (he key hkey)⟩
    rw [List.length_append]
    omega
  · refine (h.ordered.sublist hkeys).imp_of_mem ?_
    rintro key key' hkey hkey' ⟨m, n, hm, hn, hlt⟩
    exact ⟨m, n, hm.concat (he key hkey), hn.concat (he key' hkey'), hlt⟩

/-- An identity that is entered anew comes last. -/
theorem concat_new {key : String} (h : Placed base es keys) (he : ∀ key ∈ keys, ¬ e.Clears base key)
    (hnew : NewAt base (es ++ [e]) key es.length) : Placed base (es ++ [e]) (keys ++ [key]) := by
  have hlength : es.length < (es ++ [e]).length := by simp
  have hkept := h.concat (List.Sublist.refl _) he
  constructor
  · intro key' hkey'
    rcases List.mem_append.mp hkey' with hkey' | hkey'
    · exact hkept.place key' hkey'
    · rw [List.mem_singleton.mp hkey']
      exact ⟨es.length, hlength, hnew⟩
  · rw [List.pairwise_append]
    refine ⟨hkept.ordered, List.pairwise_singleton _ _, ?_⟩
    intro key' hkey' last hlast
    rw [List.mem_singleton.mp hlast]
    obtain ⟨n, hn, hplace⟩ := h.place key' hkey'
    exact ⟨n, es.length, hplace.concat (he key' hkey'), hnew, hn⟩

end Placed

/-! ## The map that a graph holds -/

/-- The graph is the map that a history tells: it holds what is live, in the order in which it came.
-/
structure Graph.Reflects (g : Graph) (es : List Edit) : Prop where
  distinct : (Entries.keys g.entries).Nodup
  live : ∀ key x, Entries.get? key g.entries = some x ↔ Live g.base es key x
  keyed : ∀ key x, Entries.get? key g.entries = some x → x.id = key
  placed : Placed g.base es (Entries.keys g.entries)

namespace Graph

variable {g : Graph} {es : List Edit}

theorem entries_add (g : Graph) (i : Instance) : (g.add i).entries =
    Entries.put (resolveIdentity g.base i.id) (i.settledOn g.base) g.entries := rfl

theorem entries_remove (g : Graph) (id : String) :
    (g.remove id).entries = Entries.erase (resolveIdentity g.base id) g.entries := rfl

theorem reflects_nil (base : String) : ({ base } : Graph).Reflects [] := by
  refine ⟨List.nodup_nil, ?_, ?_, ?_, List.Pairwise.nil⟩
  · intro key x
    exact iff_of_false (by simp) (not_since_nil _ _)
  · intro key x h
    cases h
  · intro key h
    cases h

/-- An instance that is registered keeps the place of its identity, or comes last. -/
theorem Reflects.add (h : g.Reflects es) {v : Value} {i : Instance}
    (hv : Instance.ofValue v = .ok i) : (g.add i).Reflects (es ++ [.register v]) := by
  have hclears : ∀ key ∈ Entries.keys g.entries, ¬ (Edit.register v).Clears g.base key :=
    fun _ _ => not_clears_register v
  constructor
  · rw [entries_add]
    exact Entries.nodup_keys_put h.distinct _ _
  · intro key x
    rw [entries_add, Entries.get?_put, live_register hv]
    show _ ↔ if resolveIdentity g.base i.id = key then _ else Live g.base es key x
    rw [← h.live]
    split
    · rw [Option.some.injEq, eq_comm]
      rfl
    · rfl
  · intro key x hx
    rw [entries_add, Entries.get?_put] at hx
    split at hx
    · rename_i hkey
      cases hx
      exact hkey
    · exact h.keyed key x hx
  · rw [entries_add, Entries.keys_put]
    split
    · exact h.placed.concat (List.Sublist.refl _) hclears
    · rename_i hkey
      refine h.placed.concat_new hclears ?_
      refine newAt_length ((enters_register hv _).mpr ⟨rfl, rfl⟩) ?_
      intro x hx
      rw [← h.live] at hx
      exact hkey (Entries.mem_keys_iff.mpr (by rw [hx]; rfl))

/-- An identity that is removed loses its place; the others keep theirs. -/
theorem Reflects.remove (h : g.Reflects es) (id : String) :
    (g.remove id).Reflects (es ++ [.remove id]) := by
  constructor
  · rw [entries_remove]
    exact Entries.nodup_keys_erase h.distinct _
  · intro key x
    rw [entries_remove, Entries.get?_erase, live_remove]
    show _ ↔ resolveIdentity g.base id ≠ key ∧ Live g.base es key x
    rw [← h.live]
    split
    · rename_i hkey
      simp [hkey]
    · rename_i hkey
      simp [hkey]
  · intro key x hx
    rw [entries_remove, Entries.get?_erase] at hx
    split at hx
    · cases hx
    · exact h.keyed key x hx
  · rw [entries_remove]
    refine h.placed.concat (List.filter_sublist.map Prod.fst) ?_
    intro key hkey
    rw [clears_remove]
    obtain ⟨e, he, rfl⟩ := List.mem_map.mp hkey
    have hne : e.1 ≠ resolveIdentity g.base id := of_decide_eq_true (List.mem_filter.mp he).2
    exact hne.symm

/-- What stands for no instance changes neither the graph nor what is live. -/
theorem Reflects.fail (h : g.Reflects es) {v : Value} {f : Failure}
    (hv : Instance.ofValue v = .error f) : g.Reflects (es ++ [.register v]) := by
  refine ⟨h.distinct, ?_, h.keyed, ?_⟩
  · intro key x
    rw [live_register_error hv]
    exact h.live key x
  · exact h.placed.concat (List.Sublist.refl _) fun _ _ => not_clears_register v

/-- One edit. -/
theorem Reflects.edited (h : g.Reflects es) (e : Edit) : (g.edited e).Reflects (es ++ [e]) := by
  cases e with
  | register v =>
      rw [Graph.edited]
      split
      · rename_i i hv
        exact h.add hv
      · rename_i f hv
        exact h.fail hv
  | remove id => exact h.remove id

/-- A whole history, by induction on its edits from the first one on. -/
theorem Reflects.foldl (h : g.Reflects es) (es' : List Edit) :
    (es'.foldl Graph.edited g).Reflects (es ++ es') := by
  induction es' generalizing g es with
  | nil =>
      rw [List.append_nil]
      exact h
  | cons e es' ih =>
      rw [List.foldl_cons, List.append_cons]
      exact ih (h.edited e)

/-! ### What it answers -/

theorem Reflects.find?_eq_some_iff (h : g.Reflects es) (id : String) (x : Instance) :
    g.find? id = some x ↔ Live g.base es (resolveIdentity g.base id) x :=
  h.live _ x

theorem Reflects.get_eq_ok_iff (h : g.Reflects es) (id : String) (x : Instance) :
    g.get id = .ok x ↔ Live g.base es (resolveIdentity g.base id) x := by
  rw [← h.find?_eq_some_iff, get]
  cases g.find? id <;> simp

theorem Reflects.find?_eq_none_iff (h : g.Reflects es) (id : String) :
    g.find? id = none ↔ ∀ x, ¬ Live g.base es (resolveIdentity g.base id) x := by
  rw [Option.eq_none_iff_forall_ne_some]
  exact forall_congr' fun x => not_congr (h.find?_eq_some_iff id x)

theorem Reflects.get_eq_error_iff (h : g.Reflects es) (id : String) :
    g.get id = .error (.notFound .entity (resolveIdentity g.base id) none) ↔
      ∀ x, ¬ Live g.base es (resolveIdentity g.base id) x := by
  rw [← h.find?_eq_none_iff, get]
  cases g.find? id <;> simp [resolve]

theorem Reflects.has_iff (h : g.Reflects es) (id : String) :
    g.has id = true ↔ ∃ x, Live g.base es (resolveIdentity g.base id) x := by
  rw [has, Option.isSome_iff_exists]
  exact exists_congr fun x => h.find?_eq_some_iff id x

theorem Reflects.mem_keys_iff (h : g.Reflects es) (key : String) :
    key ∈ Entries.keys g.entries ↔ ∃ x, Live g.base es key x := by
  rw [Entries.mem_keys_iff, Option.isSome_iff_exists]
  exact exists_congr fun x => h.live key x

theorem Reflects.mem_instances_iff (h : g.Reflects es) (x : Instance) :
    x ∈ g.instances ↔ Live g.base es x.id x := by
  rw [← h.live, Entries.get?_eq_some_iff h.distinct, instances, List.mem_map]
  constructor
  · rintro ⟨⟨key, y⟩, hmem, rfl⟩
    have hkey := h.keyed key y ((Entries.get?_eq_some_iff h.distinct _ _).mpr hmem)
    rw [hkey]
    exact hmem
  · intro hmem
    exact ⟨_, hmem, rfl⟩

/-- The instances are listed in the order of their identities. -/
theorem Reflects.map_id_instances (h : g.Reflects es) :
    g.instances.map Instance.id = Entries.keys g.entries := by
  rw [instances, List.map_map, Entries.keys]
  apply List.map_congr_left
  intro e he
  exact h.keyed e.1 e.2 ((Entries.get?_eq_some_iff h.distinct _ _).mpr he)

theorem Reflects.map_id_ofType_sublist (h : g.Reflects es) (type : String) :
    ((g.ofType type).map Instance.id).Sublist (Entries.keys g.entries) := by
  rw [← h.map_id_instances, ofType]
  exact List.filter_sublist.map Instance.id

theorem Reflects.mem_ofType_iff (h : g.Reflects es) (type : String) (x : Instance) :
    x ∈ g.ofType type ↔ Live g.base es x.id x ∧ x.type = type := by
  rw [ofType, List.mem_filter, h.mem_instances_iff, beq_iff_eq]

theorem mem_types_iff (g : Graph) (type : String) :
    type ∈ g.types ↔ ∃ x ∈ g.instances, x.type = type := by
  rw [types, List.mem_mergeSort, List.mem_eraseDups, List.mem_map]

theorem nodup_eraseDups (names : List String) : names.eraseDups.Nodup := by
  match names with
  | [] => exact List.nodup_nil
  | name :: names =>
      rw [List.eraseDups_cons, List.nodup_cons]
      refine ⟨?_, nodup_eraseDups _⟩
      rw [List.mem_eraseDups]
      simp
termination_by names.length
decreasing_by exact Nat.lt_succ_of_le (List.length_filter_le _ _)

/-- The types ascend, each once. -/
theorem pairwise_types (g : Graph) : g.types.Pairwise (· < ·) := by
  have hle : g.types.Pairwise fun a b => decide (a ≤ b) = true :=
    List.pairwise_mergeSort (fun a b c => by simpa using String.le_trans)
      (fun a b => by simpa using String.le_total a b) _
  have hne : g.types.Pairwise (· ≠ ·) := by
    rw [types]
    exact (List.mergeSort_perm _ _).nodup_iff.mpr (nodup_eraseDups _)
  exact hle.imp₂ (fun a b h h' => lt_of_le_of_ne (of_decide_eq_true h) h') hne

end Graph

/-! ## The answers of a session -/

/-- A run of instances alone is read as those instances. -/
theorem allItems_map_toValue (xs : List Instance) :
    allItems (xs.map fun x => .item x.toValue) = ([], .ok (xs.map Instance.toValue)) := by
  rw [← allItems_map_item, List.map_map]
  rfl

/-- The session answers what a history of edits tells, on a base. -/
structure Session.Tells (s : Session) (base : String) (es : List Edit) : Prop where
  /-- An identity leads to what is live under it, and to nothing only if nothing is. -/
  get : ∀ id x, s.sources.graph.get id = .ok x ↔ Live base es (resolveIdentity base id) x
  missing : ∀ id,
    s.sources.graph.get id = .error (.notFound .entity (resolveIdentity base id) none) ↔
      ∀ x, ¬ Live base es (resolveIdentity base id) x
  has : ∀ id, s.sources.graph.has id = true ↔ ∃ x, Live base es (resolveIdentity base id) x
  remove : ∀ id, ∃ answer, (Query.run (Query.remove id) s).2.1 = .ok answer ∧
    (answer = true ↔ ∃ x, Live base es (resolveIdentity base id) x)
  /-- The size is the number of identities under which something is live. -/
  size : ∃ keys : List String, keys.Nodup ∧ (∀ key, key ∈ keys ↔ ∃ x, Live base es key x) ∧
    s.sources.graph.entries.length = keys.length
  types : s.sources.graph.types.Pairwise (· < ·) ∧
    ∀ type, type ∈ s.sources.graph.types ↔ ∃ key x, Live base es key x ∧ x.type = type
  /-- The instances of a type are those that are live, each once, in the order in which their
  identities came. -/
  query : ∀ type, ∃ xs : List Instance,
    (Collection.instancesOf type).toList s.sources = ([], .ok (xs.map Instance.toValue)) ∧
    (∀ x, x ∈ xs ↔ ∃ key, Live base es key x ∧ x.type = type) ∧
    (xs.map Instance.id).Nodup ∧ (∀ x ∈ xs, ∃ n, NewAt base es x.id n) ∧
    xs.Pairwise fun x y => ∀ m n, NewAt base es x.id m → NewAt base es y.id n → m < n

theorem Graph.Reflects.tells {s : Session} {es : List Edit} (h : s.sources.graph.Reflects es) :
    s.Tells s.sources.graph.base es := by
  have hlive : ∀ {key x}, Live s.sources.graph.base es key x → x.id = key := by
    intro key x hx
    exact h.keyed key x ((h.live key x).mpr hx)
  constructor
  · exact h.get_eq_ok_iff
  · exact h.get_eq_error_iff
  · exact h.has_iff
  · intro id
    exact ⟨_, rfl, h.has_iff id⟩
  · exact ⟨Entries.keys s.sources.graph.entries, h.distinct, h.mem_keys_iff, by simp [Entries.keys]⟩
  · refine ⟨s.sources.graph.pairwise_types, ?_⟩
    intro type
    rw [Graph.mem_types_iff]
    constructor
    · rintro ⟨x, hx, htype⟩
      exact ⟨x.id, x, (h.mem_instances_iff x).mp hx, htype⟩
    · rintro ⟨key, x, hx, htype⟩
      obtain rfl := hlive hx
      exact ⟨x, (h.mem_instances_iff x).mpr hx, htype⟩
  · intro type
    have hkeys := h.map_id_ofType_sublist type
    refine ⟨s.sources.graph.ofType type, ?_, ?_, ?_, ?_, ?_⟩
    · rw [Collection.toList, Collection.run, allItems_map_toValue]
    · intro x
      rw [h.mem_ofType_iff]
      constructor
      · exact fun hx => ⟨x.id, hx⟩
      · rintro ⟨key, hx, htype⟩
        obtain rfl := hlive hx
        exact ⟨hx, htype⟩
    · exact h.distinct.sublist hkeys
    · intro x hx
      obtain ⟨n, -, hn⟩ := h.placed.place x.id (hkeys.subset (List.mem_map_of_mem hx))
      exact ⟨n, hn⟩
    · refine (List.pairwise_map.mp (h.placed.ordered.sublist hkeys)).imp ?_
      rintro x y ⟨m, n, hm, hn, hlt⟩ m' n' hm' hn'
      rw [hm'.unique hm, hn'.unique hn]
      exact hlt

/-- The graph of a session reflects the whole history of its edits, those that made it included. -/
theorem Session.reflects_after {base : String} {vs : List Value} {s : Session}
    (hs : ({ base } : Graph).addAll vs = .ok s.sources.graph) (es : List Edit) :
    (s.after es).sources.graph.base = base ∧
      (s.after es).sources.graph.Reflects (vs.map .register ++ es) := by
  have hmade := Graph.foldl_edited_of_addAll hs
  rw [s.graph_after]
  constructor
  · rw [Graph.base_foldl_edited, ← hmade, Graph.base_foldl_edited]
  · have hreflects := (Graph.reflects_nil base).foldl (vs.map .register)
    rw [hmade, List.nil_append] at hreflects
    exact hreflects.foldl es

/-- **A graph is a map over its history.**  A session whose graph was made on a base with some
values answers, after whatever edits, what the history of all registrations and removals tells. -/
theorem session_tells_history {base : String} {vs : List Value} {s : Session}
    (hs : ({ base } : Graph).addAll vs = .ok s.sources.graph) (es : List Edit) :
    (s.after es).Tells base (vs.map .register ++ es) := by
  obtain ⟨hbase, hreflects⟩ := Session.reflects_after hs es
  have htells := hreflects.tells
  rw [hbase] at htells
  exact htells

/-! ### An identity that leaves and comes again -/

namespace Startups

/-- Three instances: two that are relative to the base, the second one as a mapping, and one with an
identity that is absolute. -/
def values : List Value :=
  [.entity "acme" "Startup" 1 [("stage", .text "Seed")] none,
    .map [("$id", .text "/rocket"), ("$type", .text "Startup")],
    .entity "https://startups.do/jane" "Customer" 1 [] none]

/-- The graph that is made with them. -/
def graph : Graph where
  base := "https://startups.do"
  entries := [
    ("https://startups.do/acme",
      ⟨"https://startups.do/acme", "Startup", 1, [("stage", .text "Seed")],
        some "https://startups.do"⟩),
    ("https://startups.do/rocket",
      ⟨"https://startups.do/rocket", "Startup", 1, [], some "https://startups.do"⟩),
    ("https://startups.do/jane",
      ⟨"https://startups.do/jane", "Customer", 1, [], some "https://startups.do"⟩)]

/-- The first instance leaves and comes again under its absolute identity; the second one is
replaced; the third one becomes a startup; a mapping without a type stands for no instance. -/
def edits : List Edit :=
  [.remove "acme", .register (.entity "rocket" "Startup" 2 [] none),
    .register (.entity "https://startups.do/acme" "Startup" 1 [] (some "https://a.do")),
    .register (.map [("$id", .text "acme")]),
    .register (.entity "jane" "Startup" 1 [] none)]

end Startups

/-- The general statement for them: the answers agree with the history, and the identity that came
again is listed last but keeps its own context. -/
theorem session_tells_history_startups :
    ({ base := "https://startups.do" } : Graph).addAll Startups.values = .ok Startups.graph ∧
      (Session.after ⟨⟨Startups.graph, []⟩, []⟩ Startups.edits).Tells "https://startups.do"
        (Startups.values.map .register ++ Startups.edits) ∧
      Live "https://startups.do" (Startups.values.map .register ++ Startups.edits)
        "https://startups.do/acme"
        ⟨"https://startups.do/acme", "Startup", 1, [], some "https://a.do"⟩ ∧
      ((Session.after ⟨⟨Startups.graph, []⟩, []⟩ Startups.edits).sources.graph.ofType
        "Startup").map Instance.id =
        ["https://startups.do/rocket", "https://startups.do/jane", "https://startups.do/acme"] := by
  have hmade : ({ base := "https://startups.do" } : Graph).addAll Startups.values =
      .ok Startups.graph := rfl
  have htells := session_tells_history (s := ⟨⟨Startups.graph, []⟩, []⟩) hmade Startups.edits
  refine ⟨hmade, htells, ?_, rfl⟩
  exact (htells.get "acme" _).mp rfl

end Entity
