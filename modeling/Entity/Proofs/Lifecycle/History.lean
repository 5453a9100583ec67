import Entity.Proofs.Definition.Reading
import Entity.Proofs.Lifecycle.Migration
import Entity.Proofs.Lifecycle.Scripted
import Mathlib.Data.List.Sort
import Mathlib.Tactic.Common

/-!
# The history of a storage

A storage outlives the runtimes that are bound to it.  Its history is a sequence of binds, by any
runtimes with any definitions; some succeed, some are refused and some fail in the middle of their
migrations.  Main statement: over the whole history every migration is completed at most once, in
ascending order, and a bind that failed is taken up again at the migration at which it failed.
-/

namespace Entity

open Run

/-! ## Declared targets -/

/-- A list holds the declared targets above a version and up to another one, ascending. -/
structure Definition.Declares (d : Definition) (low high : Int) (targets : List Nat) : Prop where
  ascending : targets.Pairwise (· < ·)
  mem_iff : ∀ v : Nat, v ∈ targets ↔ v ∈ Entries.keys d.migrations ∧ low < v ∧ v ≤ high

namespace Definition

variable {d : Definition} {low high : Int}

/-- The pending migrations are the declared ones, if every target is declared once. -/
theorem declares_pending (hd : (Entries.keys d.migrations).Nodup) (low : Int) :
    d.Declares low d.version (d.pending low) := by
  have hperm : (d.pending low).Perm
      ((Entries.keys d.migrations).filter fun v => low < v ∧ v ≤ d.version) :=
    List.mergeSort_perm _ _
  constructor
  · have hle : (d.pending low).Pairwise (· ≤ ·) := List.pairwise_mergeSort' (· ≤ ·) _
    have hne : (d.pending low).Pairwise (· ≠ ·) := hperm.nodup_iff.mpr (hd.filter _)
    exact hle.imp₂ (fun _ _ h h' => Nat.lt_of_le_of_ne h h') hne
  · intro v
    rw [hperm.mem_iff, List.mem_filter]
    simp

/-- Of ascending targets, those before one of them are those below it. -/
theorem Declares.take {done rest : List Nat} {target : Nat}
    (h : d.Declares low high (done ++ target :: rest)) : d.Declares low (target - 1) done := by
  have hasc := List.pairwise_append.mp h.ascending
  refine ⟨hasc.1, ?_⟩
  intro v
  have hv := h.mem_iff v
  have ht := (h.mem_iff target).mp (by simp)
  rw [List.mem_append, List.mem_cons] at hv
  constructor
  · intro hmem
    have hlt := hasc.2.2 v hmem target (by simp)
    have := hv.mp (Or.inl hmem)
    exact ⟨this.1, this.2.1, by omega⟩
  · rintro ⟨hkey, hlow, hhigh⟩
    rcases hv.mpr ⟨hkey, hlow, by omega⟩ with hmem | rfl | hmem
    · exact hmem
    · omega
    · have := (List.pairwise_cons.mp hasc.2.1).1 v hmem
      omega

/-- The targets depend on the lower bound only through the declared targets above it. -/
theorem Declares.congr {low' : Int} {targets : List Nat} (h : d.Declares low high targets)
    (hlow : ∀ v : Nat, v ∈ Entries.keys d.migrations → (low < v ↔ low' < v)) :
    d.Declares low' high targets := by
  refine ⟨h.ascending, ?_⟩
  intro v
  rw [h.mem_iff]
  constructor
  · rintro ⟨hv, h1, h2⟩
    exact ⟨hv, (hlow v hv).mp h1, h2⟩
  · rintro ⟨hv, h1, h2⟩
    exact ⟨hv, (hlow v hv).mpr h1, h2⟩

end Definition

/-! ## Binds -/

/-- A runtime that is to be bound, with the way in which its functions are called. -/
structure Binder where
  runtime : Runtime
  invoke : Invoke

/-- Handlers work on storage `i` through the operations only, and every target has one migration. -/
structure Binder.Proper (i : Nat) (b : Binder) : Prop where
  mediated : b.invoke.Mediated i
  distinct : (Entries.keys b.runtime.definition.migrations).Nodup

/-- A definition that is read has one migration for every target. -/
theorem Binder.proper_of_read {i : Nat} {b : Binder} (hm : b.invoke.Mediated i)
    {raw : Entries String Value} (hraw : (Value.map raw).WellKeyed)
    (hread : (Definition.read raw).result = .ok b.runtime.definition) : b.Proper i :=
  ⟨hm, (Definition.sound_of_read hraw hread).migrations⟩

/-- A bind with its outcome and the worlds before and after it. -/
structure Attempt where
  binder : Binder
  before : World
  result : Except Failure Unit
  after : World

/-- Bind a runtime to storage `i`. -/
def Binder.attempt (b : Binder) (i : Nat) (w : World) : Attempt where
  binder := b
  before := w
  result := (exec (bindTo b.invoke i) (w.withRuntime b.runtime)).1
  after := (exec (bindTo b.invoke i) (w.withRuntime b.runtime)).2

/-- Bind runtimes to storage `i`, one after the other. -/
def history (i : Nat) (w : World) : List Binder → List Attempt
  | [] => []
  | b :: bs => b.attempt i w :: history i (b.attempt i w).after bs

namespace Attempt

/-- The definition of the runtime that was bound. -/
def definition (a : Attempt) : Definition := a.binder.runtime.definition

/-- The targets of the migrations that a bind completed, in order. -/
def completed (a : Attempt) : List Nat :=
  a.after.runtime.migrationsRun.drop a.binder.runtime.migrationsRun.length

/-- The world in which the migrations of a bind begin. -/
def start (i : Nat) (a : Attempt) : World := (a.before.withRuntime a.binder.runtime).migrating i

/-- The storage was written by a newer definition: nothing is done. -/
structure Refused (i : Nat) (a : Attempt) : Prop where
  newer : a.definition.version < a.before.recorded i
  result : a.result =
    .error (.storedNewer (a.before.recorded i) a.definition.version a.definition.type)
  stores : a.after.stores = a.before.stores
  completed : a.completed = []
  phase : a.after.runtime.phase = .unbound

/-- All pending migrations were completed, and the storage belongs to the definition. -/
structure Succeeded (i : Nat) (a : Attempt) : Prop where
  result : a.result = .ok ()
  declared : a.definition.Declares (a.before.recorded i) a.definition.version a.completed
  handlers : ∃ w, Migrated a.binder.invoke i (a.start i) a.completed w
  phase : a.after.runtime.phase = .bound
  version : Entries.get? Storage.versionKey (a.after.store i) = some (.int a.definition.version)
  serialized : Entries.get? Storage.definitionKey (a.after.store i) =
    some (.map a.definition.serialize)

/-- The migration to `target` failed; the ones before it were completed. -/
structure FailedAt (i target : Nat) (cause : Failure) (a : Attempt) : Prop where
  result : a.result =
    .error (.migration target (a.after.recorded i) a.definition.type cause)
  pending : target ∈ Entries.keys a.definition.migrations ∧ a.before.recorded i < target ∧
    target ≤ a.definition.version
  declared : a.definition.Declares (a.before.recorded i) (target - 1) a.completed
  applied_lt : a.after.recorded i < target
  handlers : ∃ w w', Migrated a.binder.invoke i (a.start i) a.completed w ∧
    exec (runMigration a.binder.invoke target) w = (.error cause, w')
  phase : a.after.runtime.phase = .stale

/-- A bind goes on at `target`: it completes the declared targets from there, all of them or those
before the one at which it fails. -/
def Resumes (i target : Nat) (a : Attempt) : Prop :=
  (a.Succeeded i ∧ a.definition.Declares (target - 1) a.definition.version a.completed) ∨
    ∃ target' cause, a.FailedAt i target' cause ∧ target ≤ target' ∧
      a.definition.Declares (target - 1) (target' - 1) a.completed

/-- The recorded version moves from below the completed targets to the last of them or above. -/
structure Progress (i : Nat) (a : Attempt) : Prop where
  versioned : a.after.Versioned i
  mono : a.before.recorded i ≤ a.after.recorded i
  ascending : a.completed.Pairwise (· < ·)
  above : ∀ v ∈ a.completed, a.before.recorded i < v
  below : ∀ v ∈ a.completed, v ≤ a.after.recorded i

/-- What completes declared targets makes progress. -/
theorem progress_of_declares {i : Nat} {a : Attempt} {high : Int} (hv : a.after.Versioned i)
    (hmono : a.before.recorded i ≤ a.after.recorded i)
    (hd : a.definition.Declares (a.before.recorded i) high a.completed)
    (hbelow : ∀ v ∈ a.completed, v ≤ a.after.recorded i) : a.Progress i :=
  ⟨hv, hmono, hd.ascending, fun v hmem => ((hd.mem_iff v).mp hmem).2.1, hbelow⟩

end Attempt

/-! ## One bind -/

namespace World

@[simp] theorem definition_withRuntime (w : World) (r : Runtime) :
    (w.withRuntime r).definition = r.definition := rfl

@[simp] theorem recorded_withRuntime (w : World) (r : Runtime) (i : Nat) :
    (w.withRuntime r).recorded i = w.recorded i := rfl

@[simp] theorem recorded_migrating (w : World) (i : Nat) :
    (w.migrating i).recorded i = w.recorded i := rfl

theorem Versioned.withRuntime {w : World} {i : Nat} (hv : w.Versioned i) (r : Runtime) :
    (w.withRuntime r).Versioned i :=
  ⟨hv.present, hv.record⟩

end World

/-- The version that is recorded after completed migrations is the last of their targets. -/
theorem World.Advanced.recorded_cases {i : Nat} {targets : List Nat} {w w' : World}
    (h : World.Advanced i targets w w') (hasc : targets.Pairwise (· < ·)) :
    (targets = [] ∧ w'.recorded i = w.recorded i) ∨
      ∃ v ∈ targets, w'.recorded i = v ∧ ∀ u ∈ targets, u ≤ v := by
  have hr := h.recorded
  rcases List.eq_nil_or_concat targets with rfl | ⟨init, v, rfl⟩
  · exact Or.inl ⟨rfl, hr⟩
  · rw [List.concat_eq_append, List.getLast?_append] at hr
    refine Or.inr ⟨v, by simp, hr, ?_⟩
    intro u hu
    rw [List.concat_eq_append, List.mem_append, List.mem_singleton] at hu
    rcases hu with hu | rfl
    · rw [List.concat_eq_append] at hasc
      exact ((List.pairwise_append.mp hasc).2.2 u hu v (by simp)).le
    · exact Nat.le_refl u

namespace Binder

variable {i : Nat} {b : Binder} {w : World}

/-- A bind to a newer storage. -/
theorem attempt_of_newer (hv : w.Versioned i) (h : b.runtime.definition.version < w.recorded i) :
    (b.attempt i w).Refused i ∧ (b.attempt i w).Progress i := by
  have hexec := exec_bindTo (hv.withRuntime b.runtime) b.invoke
  rw [World.definition_withRuntime, World.recorded_withRuntime, if_pos h] at hexec
  have hresult : (b.attempt i w).result = .error (.storedNewer (w.recorded i)
      b.runtime.definition.version b.runtime.definition.type) := congrArg Prod.fst hexec
  have hafter : (b.attempt i w).after = (w.withRuntime b.runtime).refusing :=
    congrArg Prod.snd hexec
  have hcompleted : (b.attempt i w).completed = [] := by
    rw [Attempt.completed, hafter]
    exact List.drop_length
  refine ⟨⟨h, hresult, by rw [hafter]; rfl, hcompleted, by rw [hafter]; rfl⟩, ?_⟩
  constructor
  · rw [hafter]
    exact ⟨hv.present, hv.record⟩
  · rw [hafter]
    exact Int.le_refl _
  · rw [hcompleted]
    exact List.Pairwise.nil
  · simp [hcompleted]
  · simp [hcompleted]

/-- A bind whose migrations were all completed. -/
theorem attempt_of_migrated (hb : b.Proper i) (hv : w.Versioned i)
    (hle : w.recorded i ≤ b.runtime.definition.version) {targets : List Nat} {w' : World}
    (hd : b.runtime.definition.Declares (w.recorded i) b.runtime.definition.version targets)
    (hm : Migrated b.invoke i ((w.withRuntime b.runtime).migrating i) targets w')
    (hexec : exec (bindTo b.invoke i) (w.withRuntime b.runtime) =
      (.ok (), w'.binding i b.runtime.definition)) :
    (b.attempt i w).Succeeded i ∧ (b.attempt i w).Progress i := by
  have hadv := hm.advanced hb.mediated rfl ((hv.withRuntime b.runtime).changeRuntime _)
  have hresult : (b.attempt i w).result = .ok () := congrArg Prod.fst hexec
  have hafter : (b.attempt i w).after = w'.binding i b.runtime.definition :=
    congrArg Prod.snd hexec
  -- the runtime records what it completed, after what it had completed before
  have hcompleted : (b.attempt i w).completed = targets := by
    rw [Attempt.completed, hafter]
    show (w'.runtime.migrationsRun).drop _ = targets
    rw [hadv.runtime]
    exact List.drop_left
  have hversion := World.get?_binding hadv.versioned.present b.runtime.definition
  have hrecorded : (b.attempt i w).after.recorded i = b.runtime.definition.version := by
    rw [hafter, World.recorded, hversion.1]
  constructor
  · constructor
    · exact hresult
    · rw [hcompleted]
      exact hd
    · rw [hcompleted]
      exact ⟨w', hm⟩
    · rw [hafter]
      rfl
    · rw [hafter]
      exact hversion.1
    · rw [hafter]
      exact hversion.2
  · have hd' : b.runtime.definition.Declares (w.recorded i) b.runtime.definition.version
        (b.attempt i w).completed := by
      rw [hcompleted]
      exact hd
    refine Attempt.progress_of_declares ?_ ?_ hd' ?_
    · rw [hafter]
      refine ⟨World.present_binding hadv.versioned.present _, Or.inr ⟨_, ?_, hversion.1⟩⟩
      exact hv.recorded_nonneg.trans hle
    · rw [hrecorded]
      exact hle
    · intro v hmem
      rw [hrecorded]
      exact ((hd'.mem_iff v).mp hmem).2.2

/-- A bind that stopped at a migration. -/
theorem attempt_of_stopped (hb : b.Proper i) (hv : w.Versioned i) {targets done : List Nat}
    {target : Nat} {cause : Failure} {w' : World}
    (hd : b.runtime.definition.Declares (w.recorded i) b.runtime.definition.version targets)
    (hs : Stopped b.invoke i ((w.withRuntime b.runtime).migrating i) targets done target cause w')
    (hexec : exec (bindTo b.invoke i) (w.withRuntime b.runtime) =
      (.error (.migration target (w'.recorded i) w'.definition.type cause),
        w'.failing target cause)) :
    (b.attempt i w).FailedAt i target cause ∧ (b.attempt i w).Progress i := by
  obtain ⟨⟨rest, rfl⟩, reached, hm, hrun⟩ := hs
  have hadv := hm.advanced hb.mediated rfl ((hv.withRuntime b.runtime).changeRuntime _)
  have hkept : reached.Kept i w' := by
    have hstorage : reached.runtime.storage = some i := by
      rw [hadv.runtime]
      rfl
    obtain ⟨ds, hdoes⟩ := mediated_runMigration hb.mediated target reached hstorage
    have h := hdoes.kept
    rwa [hrun] at h
  have hdone := hd.take
  have htarget := (hd.mem_iff target).mp (by simp)
  have hresult : (b.attempt i w).result =
      .error (.migration target (w'.recorded i) w'.definition.type cause) :=
    congrArg Prod.fst hexec
  have hafter : (b.attempt i w).after = w'.failing target cause := congrArg Prod.snd hexec
  have hruntime : w'.runtime = { b.runtime with
      storage := some i, phase := .migrating
      migrationsRun := b.runtime.migrationsRun ++ done } := by
    rw [hkept.runtime, hadv.runtime]
    rfl
  have hcompleted : (b.attempt i w).completed = done := by
    rw [Attempt.completed, hafter]
    show (w'.runtime.migrationsRun).drop _ = done
    rw [hruntime]
    exact List.drop_left
  have hrecorded : (b.attempt i w).after.recorded i = reached.recorded i := by
    rw [hafter, ← hkept.recorded]
    rfl
  have hcases : (done = [] ∧ reached.recorded i = w.recorded i) ∨
      ∃ v ∈ done, reached.recorded i = v ∧ ∀ u ∈ done, u ≤ v := hadv.recorded_cases hdone.ascending
  constructor
  · constructor
    · rw [hresult, hafter]
      show _ = Except.error
        (Failure.migration target (w'.recorded i) b.runtime.definition.type cause)
      rw [World.definition, hruntime]
    · exact htarget
    · rw [hcompleted]
      exact hdone
    · rw [hrecorded]
      rcases hcases with ⟨_, h⟩ | ⟨v, hmem, h, _⟩
      · rw [h]
        exact htarget.2.1
      · have := ((hdone.mem_iff v).mp hmem).2.2
        omega
    · rw [hcompleted]
      exact ⟨reached, w', hm, hrun⟩
    · rw [hafter]
      rfl
  · have hd' : b.runtime.definition.Declares (w.recorded i) (target - 1)
        (b.attempt i w).completed := by
      rw [hcompleted]
      exact hdone
    refine Attempt.progress_of_declares ?_ ?_ hd' ?_
    · rw [hafter]
      have hv' := hkept.versioned hadv.versioned
      exact ⟨hv'.present, hv'.record⟩
    · rw [hrecorded]
      show w.recorded i ≤ _
      rcases hcases with ⟨_, h⟩ | ⟨v, hmem, h, _⟩
      · omega
      · have := ((hdone.mem_iff v).mp hmem).2.1
        omega
    · intro v hmem
      rw [hcompleted] at hmem
      rw [hrecorded]
      -- the last of the completed targets is what storage records, if there is one
      rcases hcases with ⟨rfl, _⟩ | ⟨u, _, h, hu⟩
      · simp at hmem
      · have := hu v hmem
        omega

/-- **The outcomes of a bind.** -/
theorem attempt_cases (hb : b.Proper i) (hv : w.Versioned i) :
    (b.attempt i w).Progress i ∧ ((b.attempt i w).Refused i ∨ (b.attempt i w).Succeeded i ∨
      ∃ target cause, (b.attempt i w).FailedAt i target cause) := by
  have hstart : ((w.withRuntime b.runtime).migrating i).Versioned i :=
    (hv.withRuntime b.runtime).changeRuntime _
  have hpending := Definition.declares_pending hb.distinct (w.recorded i)
  have hexec := exec_bindTo (hv.withRuntime b.runtime) b.invoke
  rw [World.definition_withRuntime, World.recorded_withRuntime] at hexec
  rcases Int.lt_trichotomy b.runtime.definition.version (w.recorded i) with h | h | h
  · obtain ⟨hr, hp⟩ := attempt_of_newer hv h
    exact ⟨hp, Or.inl hr⟩
  -- an equal version: nothing is pending, and binding goes on as after no migrations
  · rw [if_neg (Int.not_lt.mpr h.ge), if_neg (Int.not_lt.mpr h.le)] at hexec
    have hnone : b.runtime.definition.Declares (w.recorded i) b.runtime.definition.version [] := by
      refine ⟨List.Pairwise.nil, ?_⟩
      intro v
      simp
      omega
    obtain ⟨hr, hp⟩ := attempt_of_migrated hb hv h.ge hnone (.nil _) hexec
    exact ⟨hp, Or.inr (Or.inl hr)⟩
  · rw [if_neg (Int.not_lt.mpr h.le), if_pos h] at hexec
    rcases migrate_cases hb.mediated (b.runtime.definition.pending (w.recorded i)) rfl hstart with
      ⟨w', hm, hr⟩ | ⟨done, target, cause, w', hs, hr⟩
    · rw [World.recorded_migrating, World.recorded_withRuntime] at hr
      rw [hr] at hexec
      obtain ⟨hr, hp⟩ := attempt_of_migrated hb hv h.le hpending hm hexec
      exact ⟨hp, Or.inr (Or.inl hr)⟩
    · rw [World.recorded_migrating, World.recorded_withRuntime] at hr
      rw [hr] at hexec
      obtain ⟨hr, hp⟩ := attempt_of_stopped hb hv hpending hs hexec
      exact ⟨hp, Or.inr (Or.inr ⟨target, cause, hr⟩)⟩

end Binder

/-! ## Taking up a failed bind -/

/-- The declared targets above the recorded version are those from the failed one on. -/
theorem Attempt.FailedAt.recorded_lt_iff {i target : Nat} {cause : Failure} {a : Attempt}
    (h : a.FailedAt i target cause) (hp : a.Progress i) {v : Nat}
    (hv : v ∈ Entries.keys a.definition.migrations) :
    a.after.recorded i < v ↔ (target : Int) - 1 < v := by
  have happlied := h.applied_lt
  constructor
  · intro hlt
    by_contra hle
    have hmem := (h.declared.mem_iff v).mpr ⟨hv, Int.lt_of_le_of_lt hp.mono hlt, by omega⟩
    have := hp.below v hmem
    omega
  · intro hlt
    omega

/-- A bind of the same definition goes on where one has failed. -/
theorem Attempt.FailedAt.resumes {i target : Nat} {cause : Failure} {a : Attempt}
    (h : a.FailedAt i target cause) (hp : a.Progress i) {b : Binder} (hb : b.Proper i)
    (hd : b.runtime.definition = a.definition) : (b.attempt i a.after).Resumes i target := by
  have hd' : (b.attempt i a.after).definition = a.definition := hd
  have hgap : ∀ v : Nat, v ∈ Entries.keys (b.attempt i a.after).definition.migrations →
      (a.after.recorded i < v ↔ (target : Int) - 1 < v) := by
    intro v hv
    rw [hd'] at hv
    exact h.recorded_lt_iff hp hv
  rcases (Binder.attempt_cases hb hp.versioned).2 with hr | hs | ⟨target', cause', hf⟩
  -- the storage cannot be newer: it records less than the target that failed
  · have hnewer : a.definition.version < a.after.recorded i := hd' ▸ hr.newer
    have := h.applied_lt
    have := h.pending.2.2
    omega
  · exact Or.inl ⟨hs, hs.declared.congr hgap⟩
  · have hbelow := (hgap target' hf.pending.1).mp hf.pending.2.1
    exact Or.inr ⟨target', cause', hf, by omega, hf.declared.congr hgap⟩

/-! ## Histories -/

/-- Every bind of a history makes progress and has one of the three outcomes. -/
theorem outcome_of_mem_history {i : Nat} {w : World} {bs : List Binder} (hv : w.Versioned i)
    (hb : ∀ b ∈ bs, b.Proper i) {a : Attempt} (ha : a ∈ history i w bs) :
    a.Progress i ∧ (a.Refused i ∨ a.Succeeded i ∨ ∃ target cause, a.FailedAt i target cause) := by
  induction bs generalizing w with
  | nil => cases ha
  | cons b bs ih =>
      have hcases := Binder.attempt_cases (hb b (by simp)) hv
      rcases List.mem_cons.mp ha with rfl | ha
      · exact hcases
      · exact ih hcases.1.versioned (fun b' hb' => hb b' (by simp [hb'])) ha

/-- What a history records and completes lies at or above the version that it begins with. -/
theorem recorded_le_of_mem_history {i : Nat} {w : World} {bs : List Binder} (hv : w.Versioned i)
    (hb : ∀ b ∈ bs, b.Proper i) {a : Attempt} (ha : a ∈ history i w bs) :
    w.recorded i ≤ a.before.recorded i := by
  induction bs generalizing w with
  | nil => cases ha
  | cons b bs ih =>
      have hp := (Binder.attempt_cases (hb b (by simp)) hv).1
      rcases List.mem_cons.mp ha with rfl | ha
      · exact Int.le_refl _
      · exact hp.mono.trans (ih hp.versioned (fun b' hb' => hb b' (by simp [hb'])) ha)

/-- The recorded version never decreases. -/
theorem pairwise_recorded_history {i : Nat} {w : World} {bs : List Binder} (hv : w.Versioned i)
    (hb : ∀ b ∈ bs, b.Proper i) :
    (w.recorded i :: (history i w bs).map fun a => a.after.recorded i).Pairwise (· ≤ ·) := by
  induction bs generalizing w with
  | nil => simp [history]
  | cons b bs ih =>
      have hp := (Binder.attempt_cases (hb b (by simp)) hv).1
      have hrest := ih hp.versioned fun b' hb' => hb b' (by simp [hb'])
      refine List.pairwise_cons.mpr ⟨?_, hrest⟩
      intro n hn
      rcases List.mem_cons.mp hn with rfl | hn
      · exact hp.mono
      · exact hp.mono.trans ((List.pairwise_cons.mp hrest).1 n hn)

/-- No migration is completed twice, and none after one to a later version. -/
theorem pairwise_completed_history {i : Nat} {w : World} {bs : List Binder} (hv : w.Versioned i)
    (hb : ∀ b ∈ bs, b.Proper i) :
    ((history i w bs).flatMap Attempt.completed).Pairwise (· < ·) := by
  induction bs generalizing w with
  | nil => exact List.Pairwise.nil
  | cons b bs ih =>
      have hp := (Binder.attempt_cases (hb b (by simp)) hv).1
      have hb' : ∀ b' ∈ bs, b'.Proper i := fun b' h => hb b' (by simp [h])
      rw [history, List.flatMap_cons, List.pairwise_append]
      refine ⟨hp.ascending, ih hp.versioned hb', ?_⟩
      intro v hv' u hu
      obtain ⟨a, ha, hua⟩ := List.mem_flatMap.mp hu
      have hbelow := hp.below v hv'
      have hle := recorded_le_of_mem_history hp.versioned hb' ha
      have habove := (outcome_of_mem_history hp.versioned hb' ha).1.above u hua
      omega

/-- **Migrations run exactly once.**  Over any history of binds, the recorded version never
decreases and the completed targets ascend; a bind that succeeds completes what its definition
declares above the recorded version, and one that fails at a migration is taken up again there. -/
theorem migrations_run_once (i : Nat) (w : World) (bs : List Binder) (hv : w.Versioned i)
    (hb : ∀ b ∈ bs, b.Proper i) :
    (w.recorded i :: (history i w bs).map fun a => a.after.recorded i).Pairwise (· ≤ ·) ∧
      ((history i w bs).flatMap Attempt.completed).Pairwise (· < ·) ∧
      (∀ a ∈ history i w bs, a.result = .ok () → a.Succeeded i) ∧
      ∀ a ∈ history i w bs, ∀ e, a.result = .error e →
        a.Refused i ∨ ∃ target cause, a.FailedAt i target cause ∧
          ∀ b : Binder, b.Proper i → b.runtime.definition = a.definition →
            (b.attempt i a.after).Resumes i target := by
  refine ⟨pairwise_recorded_history hv hb, pairwise_completed_history hv hb, ?_, ?_⟩
  · intro a ha hok
    rcases (outcome_of_mem_history hv hb ha).2 with hr | hs | ⟨target, cause, hf⟩
    · rw [hr.result] at hok
      cases hok
    · exact hs
    · rw [hf.result] at hok
      cases hok
  · intro a ha e he
    obtain ⟨hp, hr | hs | ⟨target, cause, hf⟩⟩ := outcome_of_mem_history hv hb ha
    · exact Or.inl hr
    · rw [hs.result] at he
      cases he
    · exact Or.inr ⟨target, cause, hf, fun b hb' hd => hf.resumes hp hb' hd⟩

/-! ### A storage that is bound twice -/

namespace Startup

/-- A definition with two migrations, declared out of order. -/
def definition : Definition :=
  { (default : Definition) with
    type := "Startup"
    version := 3
    migrations := [(3, .handler 1 "check"), (2, .handler 0 "backfill")] }

/-- The first migration creates an instance; the second one fails when it is first run. -/
def world : World where
  runtime := { definition }
  stores := [[]]
  scripts := [{ label := "backfill", actions := [.create (.text "acme") (.map [])] },
    { label := "check", fault := some "bad data", faultTimes := some 1 }]

def binder : Binder := ⟨{ definition }, Run.invoke⟩

end Startup

/-- The general statement for a storage without a version that is bound twice. -/
theorem migrations_run_once_startup :
    (Startup.world.Versioned 0 ∧ ∀ b ∈ [Startup.binder, Startup.binder], b.Proper 0) ∧
      ((history 0 Startup.world [Startup.binder, Startup.binder]).flatMap
        Attempt.completed).Pairwise (· < ·) ∧
      ∀ a ∈ history 0 Startup.world [Startup.binder, Startup.binder],
        a.result = .ok () → a.Succeeded 0 := by
  have hv : Startup.world.Versioned 0 := ⟨by decide, Or.inl rfl⟩
  have hb : ∀ b ∈ [Startup.binder, Startup.binder], b.Proper 0 := by
    intro b hmem
    obtain rfl : b = Startup.binder := by simpa using hmem
    exact ⟨mediated_invoke, by decide⟩
  have h := migrations_run_once 0 Startup.world [Startup.binder, Startup.binder] hv hb
  exact ⟨⟨hv, hb⟩, h.2.1, h.2.2.1⟩

end Entity
