import Entity.Proofs.Entries
import Entity.Proofs.Lifecycle.Conduct
import Mathlib.Data.String.Basic
import Mathlib.Tactic.Common

/-!
# Instances as a map

What operations on instances answer is what a map from identities answers: writing sets the data and
the version of the definition that wrote them, removing forgets both.  Storage keeps the instances
among its reserved keys and tags each with a version under a key of its data.  Main statement:
whatever runtimes and handlers do, in whatever order and however deep, the answers are those of the
map.
-/

namespace Entity

open Run

/-! ## The map -/

/-- What is known of the instances: the data under an identity and the version that wrote them. -/
abbrev Holdings := String → Option (Entries String Value × Int)

namespace Holdings

/-- No instances. -/
def empty : Holdings := fun _ => none

/-- Set or forget what is held under an identity. -/
def update (M : Holdings) (id : String) (held : Option (Entries String Value × Int)) : Holdings :=
  fun id' => if id' = id then held else M id'

/-- What is held after something was done; the data does not hold the tag. -/
def after (M : Holdings) : Deed → Holdings
  | .stored id data version =>
    M.update id (some (Entries.erase Storage.versionKey data, version))
  | .deleted id _ => M.update id none
  | .found _ _ | .listed _ => M

end Holdings

/-- An instance is what is held under its identity. -/
def Instance.IsHeld (x : Instance) (M : Holdings) : Prop := M x.id = some (x.data, x.version)

/-- What was answered is what the map answers. -/
def Deed.AnsweredBy (M : Holdings) : Deed → Prop
  | .stored _ _ _ => True
  | .deleted id answer =>
    (M id = none → answer = .ok false) ∧
      (M id ≠ none → answer = .ok true ∨ ∃ e, answer = .error e)
  | .found id none => M id = none
  | .found id (some x) => x.id = id ∧ x.IsHeld M
  | .listed xs =>
    (xs.map Instance.id).Pairwise (· < ·) ∧ (∀ x ∈ xs, x.IsHeld M) ∧
      ∀ id, M id ≠ none → id ∈ xs.map Instance.id

/-- Every answer is that of the map at the time at which it was given. -/
def Legal (M : Holdings) : List Deed → Prop
  | [] => True
  | d :: ds => d.AnsweredBy M ∧ Legal (M.after d) ds

theorem Legal.append {M : Holdings} {ds es : List Deed} (hd : Legal M ds)
    (he : Legal (ds.foldl Holdings.after M) es) : Legal M (ds ++ es) := by
  induction ds generalizing M with
  | nil => exact he
  | cons d ds ih => exact ⟨hd.1, ih hd.2 he⟩

/-! ## The map that a storage holds -/

/-- The version that a payload is tagged with. -/
def tagOf (payload : Entries String Value) : Option Int :=
  match Entries.get? Storage.versionKey payload with
  | some (.int n) => some n
  | _ => none

/-- What a storage holds under an identity. -/
def Storage.holdings (s : Storage) : Holdings := fun id =>
  match Entries.get? id s with
  | some (.map payload) =>
    if isReserved id then none
    else (tagOf payload).map fun n => (Entries.erase Storage.versionKey payload, n)
  | _ => none

/-- A storage in which keys are distinct and instances are tagged with positive versions. -/
structure Storage.Tagged (s : Storage) : Prop where
  distinct : (Entries.keys s).Nodup
  tagged : ∀ id payload, isReserved id = false → Entries.get? id s = some (.map payload) →
    ∃ n : Int, 0 < n ∧ tagOf payload = some n

/-- A storage holds no instance under a reserved key. -/
theorem Storage.holdings_of_isReserved (s : Storage) {id : String} (h : isReserved id = true) :
    s.holdings id = none := by
  unfold Storage.holdings
  split
  · rw [if_pos h]
  · rfl

/-- The version of a tagged payload does not depend on the definition that reads it. -/
theorem Definition.versionOf_eq (d : Definition) {payload : Entries String Value} {n : Int}
    (h : tagOf payload = some n) (hn : 0 < n) : d.versionOf payload = n := by
  unfold tagOf at h
  unfold versionOf Value.lookup
  split at h
  · rename_i m hm
    cases h
    simp [hm, hn]
  · cases h

/-- The payload that data is stored as is tagged with the version of the definition. -/
theorem tagOf_put (n : Int) (es : Entries String Value) :
    tagOf (Entries.put Storage.versionKey (.int n) es) = some n := by
  rw [tagOf, Entries.get?_put, if_pos rfl]

namespace Storage

variable {s : Storage}

theorem read_eq_map_iff {id : String} {payload : Entries String Value} :
    s.read id = .map payload ↔ Entries.get? id s = some (.map payload) := by
  unfold read Value.lookup
  cases Entries.get? id s <;> simp

/-- The instance of a stored payload is what is held. -/
theorem Tagged.isHeld (hs : s.Tagged) (d : Definition) {id : String}
    {payload : Entries String Value} (hr : isReserved id = false)
    (hget : Entries.get? id s = some (.map payload)) :
    (d.instanceOf id payload).IsHeld s.holdings := by
  obtain ⟨n, hn, htag⟩ := hs.tagged id payload hr hget
  have hversion : (d.instanceOf id payload).version = n := d.versionOf_eq htag hn
  rw [Instance.IsHeld, hversion]
  show s.holdings id = _
  simp only [holdings, hget, hr, htag]
  rfl

/-- Reading an instance answers what is held under its identity. -/
theorem Tagged.found (hs : s.Tagged) (d : Definition) (id : String) :
    (Deed.found id (stored? d s id)).AnsweredBy s.holdings := by
  unfold stored?
  split
  · rename_i hr
    exact s.holdings_of_isReserved hr
  · rename_i hr
    split
    · rename_i payload hread
      exact ⟨rfl, hs.isHeld d (by simpa using hr) (read_eq_map_iff.mp hread)⟩
    · rename_i hread
      show s.holdings id = none
      unfold holdings
      split
      · rename_i payload hget
        exact absurd (read_eq_map_iff.mpr hget) (hread payload)
      · rfl

/-- Nothing is found exactly where nothing is held. -/
theorem Tagged.stored?_eq_none_iff (hs : s.Tagged) (d : Definition) (id : String) :
    stored? d s id = none ↔ s.holdings id = none := by
  have h := hs.found d id
  cases hx : stored? d s id with
  | none =>
      rw [hx] at h
      exact iff_of_true rfl h
  | some x =>
      rw [hx] at h
      obtain ⟨rfl, hheld⟩ := h
      rw [Instance.IsHeld] at hheld
      simp [hheld]

/-- An instance that is listed is stored under its identity. -/
theorem mem_instancesOf {d : Definition} {es : Entries String Value} {x : Instance} :
    x ∈ instancesOf d es ↔ ∃ payload, (x.id, Value.map payload) ∈ es ∧
      isReserved x.id = false ∧ x = d.instanceOf x.id payload := by
  unfold instancesOf
  rw [List.mem_filterMap]
  constructor
  · rintro ⟨⟨key, v⟩, hmem, hx⟩
    cases v
    case map payload =>
        simp only [Option.ite_none_left_eq_some, Option.some.injEq] at hx
        obtain ⟨hr, rfl⟩ := hx
        exact ⟨payload, hmem, eq_false_of_ne_true hr, rfl⟩
    all_goals cases hx
  · rintro ⟨payload, hmem, hr, hx⟩
    refine ⟨(x.id, .map payload), hmem, ?_⟩
    simp only [hr]
    exact congrArg some hx.symm

/-- Listing keeps the order of the keys. -/
theorem map_id_instancesOf_sublist (d : Definition) (es : Entries String Value) :
    ((instancesOf d es).map Instance.id).Sublist (Entries.keys es) := by
  induction es with
  | nil => exact List.Sublist.refl _
  | cons e es ih =>
      obtain ⟨key, v⟩ := e
      show ((List.filterMap _ ((key, v) :: es)).map Instance.id).Sublist (key :: Entries.keys es)
      rw [List.filterMap_cons]
      split
      · exact ih.cons key
      · rename_i x hx
        have hkey : x.id = key := by
          cases v
          case map payload =>
              simp only [Option.ite_none_left_eq_some, Option.some.injEq] at hx
              rw [← hx.2]
              rfl
          all_goals cases hx
        rw [List.map_cons, hkey]
        exact ih.cons_cons key

/-- Listing answers exactly what is held, in the order of the identities. -/
theorem Tagged.listed (hs : s.Tagged) (d : Definition) :
    (Deed.listed (instancesOf d s.sorted)).AnsweredBy s.holdings := by
  have hkeys : (Entries.keys s.sorted).Perm (Entries.keys s) := (sorted_perm s).map Prod.fst
  have hget : ∀ id v, (id, v) ∈ s.sorted ↔ Entries.get? id s = some v := by
    intro id v
    rw [(sorted_perm s).mem_iff, Entries.get?_eq_some_iff hs.distinct]
  refine ⟨?_, ?_, ?_⟩
  · have hle : (Entries.keys s.sorted).Pairwise (· ≤ ·) :=
      List.pairwise_map.mpr (pairwise_sorted s)
    have hne : (Entries.keys s.sorted).Pairwise (· ≠ ·) := hkeys.nodup_iff.mpr hs.distinct
    have hlt : (Entries.keys s.sorted).Pairwise (· < ·) :=
      hle.imp₂ (fun a b h h' => lt_of_le_of_ne h h') hne
    exact hlt.sublist (map_id_instancesOf_sublist d s.sorted)
  · intro x hx
    obtain ⟨payload, hmem, hr, hx⟩ := mem_instancesOf.mp hx
    rw [hx]
    exact hs.isHeld d hr ((hget _ _).mp hmem)
  · intro id hid
    rw [List.mem_map]
    unfold holdings at hid
    split at hid
    · rename_i payload hpayload
      by_cases hr : isReserved id = true
      · simp [hr] at hid
      · refine ⟨d.instanceOf id payload, mem_instancesOf.mpr ⟨payload, ?_, ?_, rfl⟩, rfl⟩
        · exact (hget _ _).mpr hpayload
        · exact eq_false_of_ne_true hr
    · exact absurd rfl hid

/-! ### Writing -/

/-- The payload that a definition of version `n` stores data as. -/
theorem Tagged.put (hs : s.Tagged) (key : String) (es : Entries String Value) {n : Int}
    (hn : 0 < n) :
    Tagged (Entries.put key (.map (Entries.put versionKey (.int n) es)) s) := by
  refine ⟨Entries.nodup_keys_put hs.distinct _ _, ?_⟩
  intro id payload hr hget
  rw [Entries.get?_put] at hget
  split at hget
  · cases hget
    exact ⟨n, hn, tagOf_put n es⟩
  · exact hs.tagged id payload hr hget

theorem Tagged.erase (hs : s.Tagged) (key : String) : Tagged (Entries.erase key s) := by
  refine ⟨Entries.nodup_keys_erase hs.distinct _, ?_⟩
  intro id payload hr hget
  rw [Entries.get?_erase] at hget
  split at hget
  · cases hget
  · exact hs.tagged id payload hr hget

/-- What is held depends on the keys only that are not reserved. -/
theorem holdings_congr {s' : Storage}
    (h : ∀ key, isReserved key = false → Entries.get? key s' = Entries.get? key s) :
    s'.holdings = s.holdings := by
  funext id
  cases hr : isReserved id with
  | true => rw [holdings_of_isReserved s hr, holdings_of_isReserved s' hr]
  | false =>
      unfold holdings
      rw [h id hr]

theorem holdings_put (s : Storage) {key : String} (hkey : isReserved key = false)
    (es : Entries String Value) (n : Int) :
    holdings (Entries.put key (.map (Entries.put versionKey (.int n) es)) s) =
      s.holdings.after (.stored key es n) := by
  funext id
  show _ = if id = key then _ else _
  unfold holdings
  rw [Entries.get?_put]
  by_cases h : id = key
  · subst h
    simp [hkey, tagOf_put, Entries.erase_put]
  · simp [h, Ne.symm h]

theorem holdings_erase (s : Storage) (key : String) :
    holdings (Entries.erase key s) = s.holdings.update key none := by
  funext id
  show _ = if id = key then _ else _
  unfold holdings
  rw [Entries.get?_erase]
  by_cases h : id = key
  · simp [h]
  · simp [h, Ne.symm h]

end Storage

/-- Forgetting what is not held changes nothing. -/
theorem Holdings.update_none {M : Holdings} {id : String} (h : M id = none) :
    M.update id none = M := by
  funext id'
  unfold update
  split
  · rename_i heq
    rw [heq, h]
  · rfl

/-! ## Steps beside the operations -/

/-- Storage `i` is there and tagged, and the runtime's definition has a positive version. -/
structure World.Sound (i : Nat) (w : World) : Prop where
  present : i < w.stores.length
  tagged : (w.store i).Tagged
  version : 0 < w.definition.version

/-- A step that leaves the instances in storage `i` alone.  The runtime may change in it, and so may
the reserved keys of the storage. -/
structure World.Beside (i : Nat) (w w' : World) : Prop where
  present : i < w.stores.length → i < w'.stores.length
  version : 0 < w.definition.version → 0 < w'.definition.version
  distinct : (Entries.keys (w.store i)).Nodup → (Entries.keys (w'.store i)).Nodup
  entries : ∀ key, isReserved key = false →
    Entries.get? key (w'.store i) = Entries.get? key (w.store i)

namespace World

variable {i : Nat} {w w' : World}

theorem Untouched.beside (h : w.Untouched w') (i : Nat) : w.Beside i w' := by
  have hstore : w'.store i = w.store i := by rw [store, store, h.stores]
  refine ⟨?_, ?_, ?_, ?_⟩
  · rw [h.stores]
    exact id
  · rw [definition, definition, h.runtime]
    exact id
  · rw [hstore]
    exact id
  · intro key _
    rw [hstore]

/-- A change of the runtime that keeps its definition. -/
theorem beside_changeRuntime (w : World) (i : Nat) {f : Runtime → Runtime}
    (hf : ∀ r, (f r).definition = r.definition) : w.Beside i (w.changeRuntime f) := by
  refine ⟨id, ?_, id, fun _ _ => rfl⟩
  show 0 < w.runtime.definition.version → 0 < (f w.runtime).definition.version
  rw [hf]
  exact id

theorem beside_changeStore (w : World) (i : Nat) {key : String} (hkey : isReserved key = true)
    (v : Value) : w.Beside i (w.changeStore i (Entries.put key v)) := by
  refine ⟨by simp, id, ?_, ?_⟩
  · rcases Nat.lt_or_ge i w.stores.length with hi | hi
    · rw [store_changeStore hi]
      exact fun h => Entries.nodup_keys_put h _ _
    · rw [changeStore_of_length_le hi]
      exact id
  · intro k hk
    rcases Nat.lt_or_ge i w.stores.length with hi | hi
    · rw [store_changeStore hi, Entries.get?_put, if_neg (ne_of_isReserved hkey hk).symm]
    · rw [changeStore_of_length_le hi]

theorem Beside.sound (h : w.Beside i w') (hw : w.Sound i) : w'.Sound i := by
  refine ⟨h.present hw.present, ⟨h.distinct hw.tagged.distinct, ?_⟩, h.version hw.version⟩
  intro id payload hr hget
  rw [h.entries id hr] at hget
  exact hw.tagged.tagged id payload hr hget

theorem Beside.holdings (h : w.Beside i w') : (w'.store i).holdings = (w.store i).holdings :=
  Storage.holdings_congr h.entries

theorem Sound.storing (hw : w.Sound i) (key : String) (es : Entries String Value) :
    (w.storing i key es).Sound i := by
  refine ⟨?_, ?_, hw.version⟩
  · rw [World.storing, length_changeStore]
    exact hw.present
  · rw [World.storing, store_changeStore hw.present]
    exact hw.tagged.put key es hw.version

theorem Sound.removing (hw : w.Sound i) (key : String) : (w.removing i key).Sound i := by
  refine ⟨?_, ?_, hw.version⟩
  · rw [World.removing, length_changeStore]
    exact hw.present
  · rw [World.removing, store_changeStore hw.present]
    exact hw.tagged.erase key

end World

/-! ## Refinement -/

/-- What was done between two worlds was answered by the map, which is then that of the second. -/
structure Refines (i : Nat) (w : World) (ds : List Deed) (w' : World) : Prop where
  legal : Legal (w.store i).holdings ds
  sound : w'.Sound i
  holdings : (w'.store i).holdings = ds.foldl Holdings.after (w.store i).holdings

namespace Refines

variable {i : Nat} {w w' w'' : World} {ds es : List Deed}

theorem of_beside (h : w.Beside i w') (hw : w.Sound i) : Refines i w [] w' :=
  ⟨trivial, h.sound hw, h.holdings⟩

/-- A read answers as the map does and changes nothing. -/
theorem of_read {d : Deed} (hw : w.Sound i) (hd : d.AnsweredBy (w.store i).holdings)
    (hafter : (w.store i).holdings.after d = (w.store i).holdings) : Refines i w [d] w :=
  ⟨⟨hd, trivial⟩, hw, hafter.symm⟩

theorem trans (h : Refines i w ds w') (h' : Refines i w' es w'') :
    Refines i w (ds ++ es) w'' := by
  refine ⟨h.legal.append ?_, h'.sound, ?_⟩
  · rw [← h.holdings]
    exact h'.legal
  · rw [h'.holdings, h.holdings, List.foldl_append]

/-- A write is the first thing that is done. -/
theorem cons {d : Deed} (hd : d.AnsweredBy (w.store i).holdings)
    (hafter : (w'.store i).holdings = (w.store i).holdings.after d) (h : Refines i w' ds w'') :
    Refines i w (d :: ds) w'' := by
  refine ⟨⟨hd, ?_⟩, h.sound, ?_⟩
  · rw [← hafter]
    exact h.legal
  · rw [h.holdings, hafter]
    rfl

end Refines

/-- Removing answers whether something was held, unless the handler of the event fails. -/
theorem Storage.Tagged.deleted {w : World} {i : Nat} {id : String} (hs : (w.store i).Tagged)
    (hw : w.Serves i) (invoke : Invoke) :
    (Deed.deleted id (exec (delete invoke (.text id)) w).1).AnsweredBy (w.store i).holdings := by
  have hnone := hs.stored?_eq_none_iff w.definition id
  cases hx : stored? w.definition (w.store i) id with
  | none =>
      rw [exec_delete_of_none hw rfl hx]
      exact ⟨fun _ => rfl, fun h => absurd (hnone.mp hx) h⟩
  | some existing =>
      rw [exec_delete hw rfl hx, exec_map]
      refine ⟨fun h => ?_, fun _ => ?_⟩
      · rw [hnone.mpr h] at hx
        cases hx
      · cases (exec (fire invoke (w.definition.eventName "Deleted") existing.toValue)
          (w.removing i id)).1 with
        | ok a => exact Or.inl rfl
        | error e => exact Or.inr ⟨e, rfl⟩

/-- **Refinement.**  The induction is on the run; what a write of a run leaves is the map after it,
and the handlers that it calls begin there. -/
theorem Does.refines {i : Nat} {α : Type} {x : Run α} {w : World} {ds : List Deed}
    (h : Does (World.Beside i) i x w ds) (hw : w.Sound i) : Refines i w ds (exec x w).2 := by
  induction h with
  | beside hb => exact .of_beside hb hw
  | andThen hx _ _ ihx ihf =>
      rw [exec_bind_ok hx]
      rw [hx] at ihx
      exact (ihx hw).trans (ihf (ihx hw).sound)
  | stop hx _ ihx =>
      rw [exec_bind_error hx]
      rw [hx] at ihx
      exact ihx hw
  | answer hx _ ihx =>
      rw [exec_tryCatch, hx]
      rw [hx] at ihx
      exact ihx hw
  | recover hx _ _ ihx ihh =>
      rw [exec_tryCatch, hx]
      rw [hx] at ihx
      exact (ihx hw).trans (ihh (ihx hw).sound)
  -- reads answer from the map and leave it
  | @get id w _ _ hserves hx =>
      rw [exec_getInstance hserves] at hx ⊢
      cases hx
      exact .of_read hw (hw.tagged.found w.definition id) rfl
  | @list w _ _ hserves hx =>
      rw [exec_instances hserves] at hx ⊢
      cases hx
      exact .of_read hw (hw.tagged.listed w.definition) rfl
  -- writes change the map first; the handler of their event runs on the changed one
  | @create _ _ key es w _ hserves hid _ ih =>
      rw [exec_create hserves hid, exec_map]
      refine .cons trivial ?_ (ih (hw.storing key es))
      rw [World.storing, World.store_changeStore hw.present]
      exact Storage.holdings_put _ (storableIdentity_eq_ok hid).2.2 es _
  | @put _ _ key es w _ hserves hid _ ih =>
      rw [exec_put hserves hid, exec_map]
      refine .cons trivial ?_ (ih (hw.storing key es))
      rw [World.storing, World.store_changeStore hw.present]
      exact Storage.holdings_put _ (storableIdentity_eq_ok hid).2.2 es _
  | @remove invoke _ key _ w _ hserves hid hs _ ih =>
      obtain rfl := identityText_eq_ok hid
      have hanswer : (Deed.deleted key _).AnsweredBy _ := hw.tagged.deleted hserves invoke
      rw [exec_delete hserves hid hs, exec_map] at hanswer ⊢
      refine .cons hanswer ?_ (ih (hw.removing key))
      rw [World.removing, World.store_changeStore hw.present]
      exact Storage.holdings_erase _ key
  | @miss invoke _ key w hserves hid hs =>
      obtain rfl := identityText_eq_ok hid
      have hanswer : (Deed.deleted key _).AnsweredBy _ := hw.tagged.deleted hserves invoke
      have hnone := (hw.tagged.stored?_eq_none_iff w.definition key).mp hs
      rw [exec_delete_of_none hserves hid hs] at hanswer ⊢
      exact .of_read hw hanswer (Holdings.update_none hnone)

end Entity
