import Entity.Proofs.Lifecycle.Execution
import Mathlib.Tactic.Common

/-!
# What handlers do with instances

A handler works on the instances of a storage through the operations of its context; the operations
fire events, whose handlers work in the same way.  A run of such a computation is a derivation: it
is put together from operations on instances, the runs of the handlers that these call, and steps
beside them.  The derivation lists what was done with the instances, in the order in which it was
done.  Main statements: whatever handlers do through the operations leaves the runtime and the
reserved keys of the storage as they were, and every scripted handler works through the operations
only.
-/

namespace Entity

open Run

/-- Something that is done with the instances of a storage, with what was answered. -/
inductive Deed where
  /-- Data was stored under an identity by a definition of a version. -/
  | stored (id : String) (data : Entries String Value) (version : Int)
  /-- The removal of the instance under an identity was asked for. -/
  | deleted (id : String) (answer : Except Failure Bool)
  /-- The instance under an identity was asked for. -/
  | found (id : String) (answer : Option Instance)
  /-- All instances were asked for. -/
  | listed (answer : List Instance)

/-- A run of a computation from a world, with what it does with the instances of storage `i`, in
order.  `Beside` says which steps beside the operations there are.  An operation that writes does so
before the handler of its event runs, so what the handler does comes after the write. -/
inductive Does (Beside : World → World → Prop) (i : Nat) :
    {α : Type} → Run α → World → List Deed → Prop where
  /-- A step beside the operations. -/
  | beside {α : Type} {x : Run α} {w : World} :
      Beside w (exec x w).2 → Does Beside i x w []
  /-- A sequence whose first part has an answer. -/
  | andThen {α β : Type} {x : Run α} {f : α → Run β} {w w' : World} {a : α}
      {ds es : List Deed} :
      exec x w = (.ok a, w') → Does Beside i x w ds → Does Beside i (f a) w' es →
      Does Beside i (x >>= f) w (ds ++ es)
  /-- A sequence whose first part fails. -/
  | stop {α β : Type} {x : Run α} {f : α → Run β} {w w' : World} {e : Failure}
      {ds : List Deed} :
      exec x w = (.error e, w') → Does Beside i x w ds → Does Beside i (x >>= f) w ds
  /-- A computation whose failures would have been handled has an answer. -/
  | answer {α : Type} {x : Run α} {handle : Failure → Run α} {w w' : World} {a : α}
      {ds : List Deed} :
      exec x w = (.ok a, w') → Does Beside i x w ds → Does Beside i (tryCatch x handle) w ds
  /-- A failure is handled. -/
  | recover {α : Type} {x : Run α} {handle : Failure → Run α} {w w' : World} {e : Failure}
      {ds es : List Deed} :
      exec x w = (.error e, w') → Does Beside i x w ds → Does Beside i (handle e) w' es →
      Does Beside i (tryCatch x handle) w (ds ++ es)
  | get {id : String} {w w' : World} {found : Option Instance} :
      w.Serves i → exec (getInstance (.text id)) w = (.ok found, w') →
      Does Beside i (getInstance (.text id)) w [.found id found]
  | list {w w' : World} {listed : List Instance} :
      w.Serves i → exec instances w = (.ok listed, w') →
      Does Beside i instances w [.listed listed]
  | create {invoke : Invoke} {id : Value} {key : String} {es : Entries String Value} {w : World}
      {ds : List Deed} :
      w.Serves i → storableIdentity id = .ok key →
      Does Beside i (fire invoke (w.definition.eventName "Created")
        (w.definition.made key es).toValue) (w.storing i key es) ds →
      Does Beside i (create invoke id (.map es)) w
        (.stored key es w.definition.version :: ds)
  | put {invoke : Invoke} {id : Value} {key : String} {es : Entries String Value} {w : World}
      {ds : List Deed} :
      w.Serves i → storableIdentity id = .ok key →
      Does Beside i (fire invoke (w.definition.eventName "Updated")
        (Change.toValue ⟨stored? w.definition (w.store i) key, w.definition.made key es⟩))
        (w.storing i key es) ds →
      Does Beside i (put invoke id (.map es)) w
        (.stored key es w.definition.version :: ds)
  | remove {invoke : Invoke} {id : Value} {key : String} {existing : Instance} {w : World}
      {ds : List Deed} :
      w.Serves i → identityText id = .ok key →
      stored? w.definition (w.store i) key = some existing →
      Does Beside i (fire invoke (w.definition.eventName "Deleted") existing.toValue)
        (w.removing i key) ds →
      Does Beside i (delete invoke id) w (.deleted key (exec (delete invoke id) w).1 :: ds)
  | miss {invoke : Invoke} {id : Value} {key : String} {w : World} :
      w.Serves i → identityText id = .ok key → stored? w.definition (w.store i) key = none →
      Does Beside i (delete invoke id) w [.deleted key (exec (delete invoke id) w).1]

/-! ## Worlds that differ in parts -/

/-- The runtime and the storages are the same in two worlds. -/
structure World.Untouched (w w' : World) : Prop where
  runtime : w'.runtime = w.runtime
  stores : w'.stores = w.stores

/-- Two worlds have the same runtime, and storage `i` has the same reserved keys in them. -/
structure World.Kept (i : Nat) (w w' : World) : Prop where
  runtime : w'.runtime = w.runtime
  length : w'.stores.length = w.stores.length
  reserved : ∀ key, isReserved key = true →
    Entries.get? key (w'.store i) = Entries.get? key (w.store i)

namespace World

theorem store_changeStore {w : World} {i : Nat} (hi : i < w.stores.length)
    (f : Storage → Storage) : (w.changeStore i f).store i = f (w.store i) := by
  simp [store, changeStore, List.getElem?_eq_getElem hi]

/-- The other storages stay when one is changed. -/
theorem store_changeStore_of_ne {i j : Nat} (h : j ≠ i) (w : World) (f : Storage → Storage) :
    (w.changeStore i f).store j = w.store j := by
  rw [store, changeStore, List.getElem?_modify_ne _ _ (Ne.symm h)]
  rfl

/-- A storage that is not there cannot be changed. -/
theorem changeStore_of_length_le {w : World} {i : Nat} (hi : w.stores.length ≤ i)
    (f : Storage → Storage) : (w.changeStore i f).store i = w.store i := by
  simp [store, changeStore, List.getElem?_eq_none hi]

@[simp] theorem length_changeStore (w : World) (i : Nat) (f : Storage → Storage) :
    (w.changeStore i f).stores.length = w.stores.length := by
  simp [changeStore]

@[simp] theorem runtime_changeStore (w : World) (i : Nat) (f : Storage → Storage) :
    (w.changeStore i f).runtime = w.runtime := rfl

theorem Untouched.refl (w : World) : w.Untouched w := ⟨rfl, rfl⟩

theorem Untouched.symm {w w' : World} (h : w.Untouched w') : w'.Untouched w :=
  ⟨h.runtime.symm, h.stores.symm⟩

theorem Untouched.trans {w w' w'' : World} (h : w.Untouched w') (h' : w'.Untouched w'') :
    w.Untouched w'' :=
  ⟨h'.runtime.trans h.runtime, h'.stores.trans h.stores⟩

theorem Untouched.kept {w w' : World} (h : w.Untouched w') (i : Nat) : w.Kept i w' := by
  refine ⟨h.runtime, by rw [h.stores], ?_⟩
  intro key _
  simp [store, h.stores]

theorem Kept.refl (i : Nat) (w : World) : w.Kept i w := (Untouched.refl w).kept i

theorem Kept.trans {i : Nat} {w w' w'' : World} (h : w.Kept i w') (h' : w'.Kept i w'') :
    w.Kept i w'' :=
  ⟨h'.runtime.trans h.runtime, h'.length.trans h.length,
    fun key hk => (h'.reserved key hk).trans (h.reserved key hk)⟩

/-- A change of a storage that leaves its reserved keys alone. -/
theorem kept_changeStore (w : World) (i : Nat) (f : Storage → Storage)
    (hf : ∀ s : Storage, ∀ key, isReserved key = true →
      Entries.get? key (f s) = Entries.get? key s) : w.Kept i (w.changeStore i f) := by
  refine ⟨rfl, by simp, ?_⟩
  intro key hk
  rcases Nat.lt_or_ge i w.stores.length with hi | hi
  · rw [store_changeStore hi, hf _ _ hk]
  · rw [changeStore_of_length_le hi]

end World

/-! ## Identities -/

/-- An identity is a text. -/
theorem identityText_eq_ok {id : Value} {key : String} (h : identityText id = .ok key) :
    id = .text key := by
  cases id
  case text s =>
      simp only [identityText, Except.ok.injEq] at h
      rw [h]
  all_goals cases h

/-- What may be stored under is a text that is neither empty nor reserved. -/
theorem storableIdentity_eq_ok {id : Value} {key : String} (h : storableIdentity id = .ok key) :
    id = .text key ∧ key ≠ "" ∧ isReserved key = false := by
  unfold storableIdentity at h
  split at h
  · cases h
  · rename_i hf
    cases hid : identityText id with
    | error e => rw [hid] at h; cases h
    | ok key' =>
        rw [hid] at h
        simp only [bind, Except.bind] at h
        split at h
        · cases h
        · rename_i hr
          cases h
          obtain rfl := identityText_eq_ok hid
          refine ⟨rfl, ?_, by simpa using hr⟩
          rintro rfl
          exact hf rfl

/-- A reserved key is no key that may be stored under. -/
theorem ne_of_isReserved {key id : String} (hk : isReserved key = true)
    (hid : isReserved id = false) : id ≠ key := by
  rintro rfl
  rw [hk] at hid
  cases hid

/-! ## What operations keep -/

namespace World

theorem kept_storing {key : String} (w : World) (i : Nat) (es : Entries String Value)
    (hkey : isReserved key = false) : w.Kept i (w.storing i key es) := by
  apply kept_changeStore
  intro s k hk
  rw [Entries.get?_put, if_neg (ne_of_isReserved hk hkey)]

theorem kept_removing {key : String} (w : World) (i : Nat) (hkey : isReserved key = false) :
    w.Kept i (w.removing i key) := by
  apply kept_changeStore
  intro s k hk
  rw [Entries.get?_erase, if_neg (ne_of_isReserved hk hkey)]

end World

/-- An instance is stored under a key that is not reserved. -/
theorem not_isReserved_of_stored? {d : Definition} {s : Storage} {key : String} {x : Instance}
    (h : stored? d s key = some x) : isReserved key = false := by
  unfold stored? at h
  split at h
  · cases h
  · rename_i hr
    simpa using hr

/-- **Frame of the operations.**  A run that touches nothing beside the operations keeps the runtime
and the reserved keys of the storage. -/
theorem Does.kept {i : Nat} {α : Type} {x : Run α} {w : World} {ds : List Deed}
    (h : Does World.Untouched i x w ds) : w.Kept i (exec x w).2 := by
  induction h with
  | beside hw => exact hw.kept i
  | andThen hx _ _ ihx ihf =>
      rw [exec_bind_ok hx]
      rw [hx] at ihx
      exact ihx.trans ihf
  | stop hx _ ihx =>
      rw [exec_bind_error hx]
      rwa [hx] at ihx
  | answer hx _ ihx =>
      rw [exec_tryCatch, hx]
      rwa [hx] at ihx
  | recover hx _ _ ihx ihh =>
      rw [exec_tryCatch, hx]
      rw [hx] at ihx
      exact ihx.trans ihh
  | get hw hx =>
      rw [exec_getInstance_world]
      exact World.Kept.refl i _
  | list hw hx =>
      rw [exec_instances_world]
      exact World.Kept.refl i _
  -- what is written is never under a reserved key
  | create hw hid _ ih =>
      rw [exec_create hw hid, exec_map]
      exact (World.kept_storing _ i _ (storableIdentity_eq_ok hid).2.2).trans ih
  | put hw hid _ ih =>
      rw [exec_put hw hid, exec_map]
      exact (World.kept_storing _ i _ (storableIdentity_eq_ok hid).2.2).trans ih
  | remove hw hid hs _ ih =>
      rw [exec_delete hw hid hs, exec_map]
      exact (World.kept_removing _ i (not_isReserved_of_stored? hs)).trans ih
  | miss hw hid hs =>
      rw [exec_delete_of_none hw hid hs]
      exact World.Kept.refl i _

/-! ## Computations beside the operations -/

/-- The computation touches neither the runtime nor a storage. -/
def Run.Aside {α : Type} (x : Run α) : Prop := ∀ w : World, w.Untouched (exec x w).2

namespace Run

variable {α β : Type}

theorem aside_pure (a : α) : (pure a : Run α).Aside := World.Untouched.refl

theorem aside_throw (e : Failure) : (throw e : Run α).Aside := World.Untouched.refl

theorem aside_get : (get : Run World).Aside := World.Untouched.refl

theorem aside_definition : definition.Aside := World.Untouched.refl

theorem aside_ofResult (r : Except Failure α) : (ofResult r).Aside := by
  intro w
  rw [exec_ofResult]
  exact World.Untouched.refl w

/-- A change of the world beside the runtime and the storages. -/
theorem aside_modify {f : World → World} (h : ∀ w : World, w.Untouched (f w)) :
    (modify f : Run Unit).Aside := h

theorem aside_note (h : Happening) : (note h).Aside := aside_modify fun _ => ⟨rfl, rfl⟩

theorem Aside.bind {x : Run α} {f : α → Run β} (hx : x.Aside) (hf : ∀ a, (f a).Aside) :
    (x >>= f).Aside := by
  intro w
  have hw := hx w
  rw [exec_bind]
  rcases hr : exec x w with ⟨r, w'⟩
  rw [hr] at hw
  cases r with
  | error e => exact hw
  | ok a => exact hw.trans (hf a w')

end Run

/-! ## Computations that work through the operations only -/

/-- Every run of the computation on storage `i` works through the operations only. -/
def Run.Mediated {α : Type} (i : Nat) (x : Run α) : Prop :=
  ∀ w : World, w.runtime.storage = some i → ∃ ds, Does World.Untouched i x w ds

/-- Whatever function is called works through the operations only. -/
def Invoke.Mediated (i : Nat) (invoke : Invoke) : Prop :=
  ∀ f args, (invoke f args : Run Value).Mediated i

namespace Run

variable {α β : Type} {i : Nat}

/-- What never touches the runtime and the storages is no work on instances. -/
theorem Aside.mediated {x : Run α} (h : x.Aside) : x.Mediated i :=
  fun w _ => ⟨[], .beside (h w)⟩

theorem mediated_pure (a : α) : (pure a : Run α).Mediated i := (aside_pure a).mediated

theorem mediated_throw (e : Failure) : (throw e : Run α).Mediated i := (aside_throw e).mediated

theorem mediated_get : (get : Run World).Mediated i := aside_get.mediated

theorem mediated_ofResult (r : Except Failure α) : (ofResult r).Mediated i :=
  (aside_ofResult r).mediated

theorem mediated_definition : definition.Mediated i := aside_definition.mediated

theorem mediated_note (h : Happening) : (note h).Mediated i := (aside_note h).mediated

/-- The work of a sequence is the work of its parts. -/
theorem Mediated.bind {x : Run α} {f : α → Run β} (hx : x.Mediated i)
    (hf : ∀ a, (f a).Mediated i) : (x >>= f).Mediated i := by
  intro w hw
  obtain ⟨ds, hd⟩ := hx w hw
  rcases hr : exec x w with ⟨r, w'⟩
  cases r with
  | error e => exact ⟨ds, .stop hr hd⟩
  | ok a =>
      have hk := hd.kept
      rw [hr] at hk
      obtain ⟨es, he⟩ := hf a w' (by rw [hk.runtime, hw])
      exact ⟨ds ++ es, .andThen hr hd he⟩

theorem Mediated.map {x : Run α} (hx : x.Mediated i) (f : α → β) : (f <$> x).Mediated i := by
  rw [← bind_pure_comp]
  exact hx.bind fun a => mediated_pure (f a)

/-- An event is handled in the way in which functions are called. -/
theorem mediated_fire {invoke : Invoke} (hi : invoke.Mediated i) (event : String)
    (payload : Value) : (fire invoke event payload).Mediated i := by
  refine mediated_get.bind fun w => ?_
  split
  · exact hi _ _
  · exact mediated_pure _

/-! ### Operations on instances -/

theorem mediated_getInstance (id : Value) : (getInstance id).Mediated i := by
  intro w hw
  by_cases hs : w.Serves i ∧ ∃ key, id = .text key
  · obtain ⟨hs, key, rfl⟩ := hs
    exact ⟨_, .get hs (exec_getInstance hs key)⟩
  · exact ⟨[], .beside (by rw [exec_getInstance_world]; exact World.Untouched.refl w)⟩

theorem mediated_instances : instances.Mediated i := by
  intro w hw
  by_cases hs : w.Serves i
  · exact ⟨_, .list hs (exec_instances hs)⟩
  · exact ⟨[], .beside (by rw [exec_instances_world]; exact World.Untouched.refl w)⟩

theorem mediated_create {invoke : Invoke} (hi : invoke.Mediated i) (id data : Value) :
    (create invoke id data).Mediated i := by
  intro w hw
  rcases create_cases invoke id data w with ⟨j, key, es, hs, hid, rfl⟩ | ⟨e, he⟩
  · obtain rfl : i = j := by simpa [hw] using hs.1
    obtain ⟨ds, hd⟩ := mediated_fire hi (w.definition.eventName "Created")
      (w.definition.made key es).toValue (w.storing i key es) hw
    exact ⟨_, .create hs hid hd⟩
  · exact ⟨[], .beside (by rw [he]; exact World.Untouched.refl w)⟩

theorem mediated_put {invoke : Invoke} (hi : invoke.Mediated i) (id data : Value) :
    (put invoke id data).Mediated i := by
  intro w hw
  rcases put_cases invoke id data w with ⟨j, key, es, hs, hid, rfl⟩ | ⟨e, he⟩
  · obtain rfl : i = j := by simpa [hw] using hs.1
    obtain ⟨ds, hd⟩ := mediated_fire hi (w.definition.eventName "Updated")
      (Change.toValue ⟨stored? w.definition (w.store i) key, w.definition.made key es⟩)
      (w.storing i key es) hw
    exact ⟨_, .put hs hid hd⟩
  · exact ⟨[], .beside (by rw [he]; exact World.Untouched.refl w)⟩

theorem mediated_delete {invoke : Invoke} (hi : invoke.Mediated i) (id : Value) :
    (delete invoke id).Mediated i := by
  intro w hw
  rcases delete_cases invoke id w with ⟨j, key, hs, hid⟩ | ⟨e, he⟩
  · obtain rfl : i = j := by simpa [hw] using hs.1
    cases hx : stored? w.definition (w.store i) key with
    | none => exact ⟨_, .miss hs hid hx⟩
    | some existing =>
        obtain ⟨ds, hd⟩ := mediated_fire hi (w.definition.eventName "Deleted") existing.toValue
          (w.removing i key) hw
        exact ⟨_, .remove hs hid hx hd⟩
  · exact ⟨[], .beside (by rw [he]; exact World.Untouched.refl w)⟩

end Run

end Entity
