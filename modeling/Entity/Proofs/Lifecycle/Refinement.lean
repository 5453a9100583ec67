import Entity.Proofs.Lifecycle.Holdings
import Entity.Proofs.Lifecycle.Migration
import Mathlib.Tactic.Common

/-!
# Operations refine the map

A run of operations on instances, of handlers and of binds is answered as the map of instances
answers.  Main statements: the refinement from a storage without instances on, and that every bind
is a run of this kind.
-/

namespace Entity

open Run

/-! ## Binds -/

/-- A run that works through the operations is one in which the steps beside them are restricted
less. -/
theorem Does.mono {Beside Beside' : World → World → Prop} {i : Nat} {α : Type} {x : Run α}
    {w : World} {ds : List Deed} (hb : ∀ w w', Beside w w' → Beside' w w')
    (h : Does Beside i x w ds) : Does Beside' i x w ds := by
  induction h with
  | beside hw => exact .beside (hb _ _ hw)
  | andThen hx _ _ ihx ihf => exact .andThen hx ihx ihf
  | stop hx _ ihx => exact .stop hx ihx
  | answer hx _ ihx => exact .answer hx ihx
  | recover hx _ _ ihx ihh => exact .recover hx ihx ihh
  | get hw hx => exact .get hw hx
  | list hw hx => exact .list hw hx
  | create hw hid _ ih => exact .create hw hid ih
  | put hw hid _ ih => exact .put hw hid ih
  | remove hw hid hs _ ih => exact .remove hw hid hs ih
  | miss hw hid hs => exact .miss hw hid hs

/-- From a runtime on that is attached to storage `i`, a run leaves the instances alone beside the
operations, and it goes on attached to the storage. -/
def Run.Covered {α : Type} (i : Nat) (x : Run α) : Prop :=
  ∀ w : World, w.runtime.storage = some i →
    (∃ ds, Does (World.Beside i) i x w ds) ∧
      ∀ a w', exec x w = (.ok a, w') → w'.runtime.storage = some i

namespace Run

variable {α β : Type} {i : Nat}

theorem Mediated.covered {x : Run α} (hx : x.Mediated i) : x.Covered i := by
  intro w hw
  obtain ⟨ds, hd⟩ := hx w hw
  refine ⟨⟨ds, hd.mono fun _ _ h => h.beside i⟩, ?_⟩
  intro a w' hr
  have hk := hd.kept
  rw [hr] at hk
  rw [hk.runtime, hw]

theorem Covered.bind {x : Run α} {f : α → Run β} (hx : x.Covered i)
    (hf : ∀ a, (f a).Covered i) : (x >>= f).Covered i := by
  intro w hw
  obtain ⟨⟨ds, hd⟩, hs⟩ := hx w hw
  rcases hr : exec x w with ⟨_ | a, w'⟩
  · refine ⟨⟨ds, .stop hr hd⟩, ?_⟩
    intro b w'' h
    rw [exec_bind_error hr] at h
    cases h
  · obtain ⟨⟨es, he⟩, hs'⟩ := hf a w' (hs a w' hr)
    refine ⟨⟨ds ++ es, .andThen hr hd he⟩, ?_⟩
    intro b w'' h
    rw [exec_bind_ok hr] at h
    exact hs' b w'' h

/-- The handling of a failure begins in the world that the failure has left. -/
theorem Mediated.covered_tryCatch {x : Run α} {handle : Failure → Run α} (hx : x.Mediated i)
    (hh : ∀ e, (handle e).Covered i) : (tryCatch x handle).Covered i := by
  intro w hw
  obtain ⟨ds, hd⟩ := hx w hw
  have hk := hd.kept
  have hd' := hd.mono fun _ _ h => World.Untouched.beside h i
  rcases hr : exec x w with ⟨e | a, w'⟩
  · rw [hr] at hk
    obtain ⟨⟨es, he⟩, hs⟩ := hh e w' (by rw [hk.runtime, hw])
    refine ⟨⟨ds ++ es, .recover hr hd' he⟩, ?_⟩
    intro b w'' h
    rw [exec_tryCatch, hr] at h
    exact hs b w'' h
  · rw [hr] at hk
    refine ⟨⟨ds, .answer hr hd'⟩, ?_⟩
    intro b w'' h
    rw [exec_tryCatch, hr] at h
    cases h
    rw [hk.runtime, hw]

theorem covered_of_beside {x : Run α} (hb : ∀ w, World.Beside i w (exec x w).2)
    (hs : ∀ w a w', exec x w = (.ok a, w') → w'.runtime.storage = w.runtime.storage) :
    x.Covered i :=
  fun w hw => ⟨⟨[], .beside (hb w)⟩, fun a w' h => (hs w a w' h).trans hw⟩

/-! ### The steps of a bind -/

theorem covered_modify {f : World → World} (hb : ∀ w, World.Beside i w (f w))
    (hs : ∀ w, (f w).runtime.storage = w.runtime.storage) : (modify f : Run Unit).Covered i := by
  refine covered_of_beside hb ?_
  intro w a w' h
  cases h
  exact hs w

theorem covered_writeKey {key : String} (hkey : isReserved key = true) (v : Value) :
    (writeKey i key v).Covered i :=
  covered_modify (fun w => w.beside_changeStore i hkey v) fun _ => rfl

theorem covered_enter (phase : Phase) : (enter phase).Covered i :=
  covered_modify (fun w => w.beside_changeRuntime i fun _ => rfl) fun _ => rfl

theorem covered_completeMigration (target : Nat) : (completeMigration i target).Covered i :=
  (covered_writeKey rfl _).bind fun _ =>
    covered_modify (fun w => w.beside_changeRuntime i fun _ => rfl) fun _ => rfl

theorem covered_failMigration (target : Nat) (applied : Int) (cause : Failure) :
    (failMigration target applied cause).Covered i := by
  refine mediated_definition.covered.bind fun d => (covered_enter _).bind fun _ => ?_
  refine Covered.bind ?_ fun _ => (mediated_throw _).covered
  refine covered_modify (fun w => ?_) fun _ => rfl
  apply World.Untouched.beside
  exact ⟨rfl, rfl⟩

theorem covered_migrate {invoke : Invoke} (hi : invoke.Mediated i) (applied : Int)
    (targets : List Nat) : (migrate invoke i applied targets).Covered i := by
  induction targets generalizing applied with
  | nil => exact (mediated_pure _).covered
  | cons target targets ih =>
      refine Covered.bind ?_ fun _ => (covered_completeMigration target).bind fun _ => ih target
      exact (mediated_runMigration hi target).covered_tryCatch fun e =>
        covered_failMigration target applied e

/-- Refusing detaches the runtime, but then it fails. -/
theorem covered_refuse (stored : Int) : (refuse stored).Covered i := by
  refine covered_of_beside (fun w => ?_) ?_
  · show w.Beside i w.refusing
    exact w.beside_changeRuntime i fun _ => rfl
  · intro w a w' h
    cases h

theorem mediated_storedVersion : storedVersion.Mediated i := by
  refine mediated_get.bind fun w => ?_
  split
  · refine Mediated.bind ?_ fun _ => mediated_ofResult _
    exact Aside.mediated World.Untouched.refl
  · exact mediated_pure _

/-- A step that attaches the runtime, and what goes on from there. -/
theorem exists_does_andThen {x : Run α} {f : α → Run β} {a : α} {w w' : World}
    (hx : exec x w = (.ok a, w')) (hb : w.Beside i w') (hs : w'.runtime.storage = some i)
    (hf : (f a).Covered i) : ∃ ds, Does (World.Beside i) i (x >>= f) w ds := by
  obtain ⟨ds, hd⟩ := (hf w' hs).1
  exact ⟨_, .andThen hx (.beside (by rw [hx]; exact hb)) hd⟩

/-- Every bind is a run of operations and of steps beside them. -/
theorem covered_bindTo {invoke : Invoke} (hi : invoke.Mediated i) (w : World) :
    ∃ ds, Does (World.Beside i) i (bindTo invoke i) w ds := by
  have hfinish : ∀ d : Definition, (do
      writeKey i Storage.versionKey (.int d.version)
      writeKey i Storage.definitionKey (.map d.serialize)
      enter .bound : Run Unit).Covered i := fun d =>
    (covered_writeKey rfl _).bind fun _ => (covered_writeKey rfl _).bind fun _ => covered_enter _
  have hattach : exec (modify fun w => w.changeRuntime ({ · with storage := some i })) w =
      (.ok (), w.attaching i) := rfl
  -- from the attached runtime on, every step is covered
  refine exists_does_andThen hattach (w.beside_changeRuntime i fun _ => rfl) rfl ?_
  refine mediated_storedVersion.covered.bind fun stored => ?_
  refine mediated_definition.covered.bind fun d => ?_
  dsimp only
  split
  · refine (covered_refuse stored).bind fun _ => ?_
    split
    · exact (covered_enter _).bind fun _ => (covered_migrate hi _ _).bind fun _ => hfinish d
    · exact hfinish d
  · split
    · exact (covered_enter _).bind fun _ => (covered_migrate hi _ _).bind fun _ => hfinish d
    · exact hfinish d

end Run

/-! ## From a storage without instances -/

/-- Storage `i` is there and holds no instance, and the runtime's definition has a positive
version. -/
structure World.Fresh (i : Nat) (w : World) : Prop where
  present : i < w.stores.length
  distinct : (Entries.keys (w.store i)).Nodup
  vacant : ∀ id payload, isReserved id = false →
    Entries.get? id (w.store i) ≠ some (.map payload)
  version : 0 < w.definition.version

namespace World.Fresh

variable {i : Nat} {w : World}

theorem sound (hw : w.Fresh i) : w.Sound i := by
  refine ⟨hw.present, ⟨hw.distinct, ?_⟩, hw.version⟩
  intro id payload hr hget
  exact absurd hget (hw.vacant id payload hr)

theorem holdings (hw : w.Fresh i) : (w.store i).holdings = Holdings.empty := by
  funext id
  show _ = none
  unfold Storage.holdings
  split
  · rename_i payload hget
    cases hr : isReserved id with
    | true => rfl
    | false => exact absurd hget (hw.vacant id payload hr)
  · rfl

end World.Fresh

/-- The operations answer at a moment what the map answers. -/
structure World.Agrees (i : Nat) (w : World) (M : Holdings) : Prop where
  get : ∀ id, ∃ answer, exec (getInstance (.text id)) w = (.ok answer, w) ∧
    (Deed.found id answer).AnsweredBy M
  list : ∃ answer, exec instances w = (.ok answer, w) ∧ (Deed.listed answer).AnsweredBy M
  delete : ∀ invoke id, (Deed.deleted id (exec (delete invoke (.text id)) w).1).AnsweredBy M

/-- In a tagged storage the operations answer what it holds. -/
theorem World.Sound.agrees {i : Nat} {w : World} (hw : w.Sound i) (hs : w.Serves i) :
    w.Agrees i (w.store i).holdings := by
  constructor
  · intro id
    exact ⟨_, exec_getInstance hs id, hw.tagged.found w.definition id⟩
  · exact ⟨_, exec_instances hs, hw.tagged.listed w.definition⟩
  · intro invoke id
    exact hw.tagged.deleted hs invoke

/-- **Operations on instances refine a map.**  In every run of operations, handlers and binds from a
storage without instances on, each answer is that of the map at its time, and so is every answer
after the run; the map holds nothing under a reserved key, and the operations and their handlers
never change what is under one. -/
theorem operations_refine_map {i : Nat} {α : Type} {x : Run α} {w : World} {ds : List Deed}
    (hw : w.Fresh i) (h : Does (World.Beside i) i x w ds) :
    Legal Holdings.empty ds ∧
      ((exec x w).2.Serves i →
        (exec x w).2.Agrees i (ds.foldl Holdings.after Holdings.empty)) ∧
      (∀ id, isReserved id = true → ds.foldl Holdings.after Holdings.empty id = none) ∧
      ∀ (β : Type) (y : Run β) (v : World) (es : List Deed), Does World.Untouched i y v es →
        ∀ key, isReserved key = true →
          Entries.get? key ((exec y v).2.store i) = Entries.get? key (v.store i) := by
  have hr := h.refines hw.sound
  have hM : ((exec x w).2.store i).holdings = ds.foldl Holdings.after Holdings.empty := by
    rw [hr.holdings, hw.holdings]
  refine ⟨?_, ?_, ?_, ?_⟩
  · rw [← hw.holdings]
    exact hr.legal
  · intro hs
    rw [← hM]
    exact hr.sound.agrees hs
  · intro id hid
    rw [← hM]
    exact Storage.holdings_of_isReserved _ hid
  · intro β y v es hy
    exact hy.kept.reserved

/-! ### A bound runtime -/

namespace Acme

/-- A runtime that is bound to a storage without instances. -/
def world : World where
  runtime :=
    { definition := { (default : Definition) with type := "Startup", version := 2 }
      phase := .bound
      storage := some 0 }
  stores := [[("$version", .int 2)]]

/-- Data with a tag of its own. -/
def data : Entries String Value := [("$version", .int 9), ("name", .text "Acme")]

/-- Create an instance and remove it. -/
def script : Run Bool := do
  let _ ← create Run.invoke (.text "acme") (.map data)
  delete Run.invoke (.text "acme")

/-- What the script does. -/
def deeds : List Deed := [.stored "acme" data 2, .deleted "acme" (.ok true)]

theorem fresh_world : world.Fresh 0 := by
  refine ⟨by decide, by decide, ?_, by decide⟩
  intro id payload hr hget
  have hid : id = "$version" := by
    by_contra hne
    have hnone : Entries.get? id (world.store 0) = none := if_neg (Ne.symm hne)
    rw [hnone] at hget
    cases hget
  subst hid
  cases hr

theorem does_script : Does (World.Beside 0) 0 script world deeds := by
  have hserves : world.Serves 0 := ⟨rfl, by decide⟩
  have hid : storableIdentity (.text "acme") = .ok "acme" := rfl
  have hsilent : ∀ (w : World) (event : String) (payload : Value), w.definition.events = [] →
      exec (fire Run.invoke event payload) w = (.ok .null, w) := by
    intro w event payload hw
    exact exec_fire_of_none (by rw [hw]; rfl) Run.invoke payload
  have hbeside : ∀ (w : World) (event : String) (payload : Value), w.definition.events = [] →
      Does (World.Beside 0) 0 (fire Run.invoke event payload) w [] := by
    intro w event payload hw
    refine .beside ?_
    rw [hsilent w event payload hw]
    exact (World.Untouched.refl w).beside 0
  have hcreate : exec (create Run.invoke (.text "acme") (.map data)) world =
      (.ok (world.definition.made "acme" data), world.storing 0 "acme" data) := by
    rw [exec_create hserves hid, exec_map, hsilent _ _ _ rfl]
    rfl
  have hserves' : (world.storing 0 "acme" data).Serves 0 := hserves
  have hstored : stored? world.definition ((world.storing 0 "acme" data).store 0) "acme" =
      some (world.definition.made "acme" data) := rfl
  have hdelete : (exec (delete Run.invoke (.text "acme")) (world.storing 0 "acme" data)).1 =
      .ok true := by
    rw [exec_delete hserves' rfl hstored, exec_map, hsilent _ _ _ rfl]
    rfl
  have hdeletes : Does (World.Beside 0) 0 (delete Run.invoke (.text "acme"))
      (world.storing 0 "acme" data) [.deleted "acme" (.ok true)] := by
    rw [← hdelete]
    exact .remove hserves' rfl hstored (hbeside _ _ _ rfl)
  exact .andThen hcreate (.create hserves hid (hbeside _ _ _ rfl)) hdeletes

end Acme

/-- The general statement for a runtime that creates an instance, with a tag in its data, and
removes it. -/
theorem operations_refine_map_acme :
    (Acme.world.Fresh 0 ∧ Does (World.Beside 0) 0 Acme.script Acme.world Acme.deeds) ∧
      Legal Holdings.empty Acme.deeds ∧
      ∀ id, isReserved id = true →
        Acme.deeds.foldl Holdings.after Holdings.empty id = none := by
  have h := operations_refine_map Acme.fresh_world Acme.does_script
  exact ⟨⟨Acme.fresh_world, Acme.does_script⟩, h.1, h.2.2.1⟩

end Entity
