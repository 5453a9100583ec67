import Entity.Entries
import Mathlib.Data.List.Nodup
import Mathlib.Tactic.Common

/-!
# Mappings with distinct keys

A mapping that is built by writes and removals holds every key once.  Main statements: writing and
removing keep the keys distinct, and then the entries are the values that are found.
-/

namespace Entity.Entries

variable {κ α : Type} [DecidableEq κ]

theorem nodup_keys_put {m : Entries κ α} (h : (keys m).Nodup) (k : κ) (a : α) :
    (keys (put k a m)).Nodup := by
  rw [keys_put]
  split
  · exact h
  · rename_i hk
    rw [List.nodup_append]
    refine ⟨h, by simp, ?_⟩
    intro k' hk' k'' hk'' heq
    rw [List.mem_singleton] at hk''
    exact hk (hk'' ▸ heq ▸ hk')

/-- What is written is listed beside what was there. -/
theorem eq_or_mem_of_mem_put {k : κ} {a : α} {m : Entries κ α} {e : κ × α}
    (h : e ∈ put k a m) : e = (k, a) ∨ e ∈ m := by
  induction m with
  | nil => simpa [put] using h
  | cons e' m ih =>
      rw [put] at h
      split at h
      · rename_i hk
        rcases List.mem_cons.mp h with rfl | h
        · left
          rw [hk]
        · exact Or.inr (by simp [h])
      · rcases List.mem_cons.mp h with rfl | h
        · exact Or.inr (by simp)
        · rcases ih h with h | h
          · exact Or.inl h
          · exact Or.inr (by simp [h])

theorem nodup_keys_erase {m : Entries κ α} (h : (keys m).Nodup) (k : κ) :
    (keys (erase k m)).Nodup :=
  h.sublist (List.filter_sublist.map Prod.fst)

/-- What is found is listed. -/
theorem mem_of_get?_eq_some {k : κ} {a : α} {m : Entries κ α} (h : get? k m = some a) :
    (k, a) ∈ m := by
  induction m with
  | nil => cases h
  | cons e m ih =>
      obtain ⟨k', a'⟩ := e
      rw [get?_cons] at h
      split at h
      · rename_i hk
        cases h
        rw [hk]
        exact List.mem_cons_self
      · exact List.mem_cons_of_mem _ (ih h)

/-- With distinct keys, what is found is what is listed. -/
theorem get?_eq_some_iff {m : Entries κ α} (h : (keys m).Nodup) (k : κ) (a : α) :
    get? k m = some a ↔ (k, a) ∈ m := by
  induction m with
  | nil => simp
  | cons e m ih =>
      obtain ⟨k', a'⟩ := e
      have hcons := List.nodup_cons.mp h
      rw [get?_cons, List.mem_cons]
      split
      · rename_i hk
        subst hk
        have hnot : (k', a) ∉ m := fun hmem => hcons.1 (List.mem_map.mpr ⟨_, hmem, rfl⟩)
        simp [hnot, eq_comm]
      · rename_i hk
        rw [ih hcons.2]
        simp [Ne.symm hk]

/-- Removing a key forgets what was last written under it. -/
theorem erase_put (k : κ) (a : α) (m : Entries κ α) : erase k (put k a m) = erase k m := by
  induction m with
  | nil => simp [put, erase]
  | cons e m ih =>
      unfold put
      split
      · rename_i hk
        simp [erase, hk]
      · rename_i hk
        have hrest : (put k a m).filter (fun e => e.1 ≠ k) = m.filter fun e => e.1 ≠ k := ih
        simp only [erase, List.filter_cons, hrest]

/-! ## Appending and merging -/

@[simp] theorem get?_append (k : κ) (m m' : Entries κ α) :
    get? k (m ++ m') = (get? k m).or (get? k m') := by
  induction m with
  | nil => simp
  | cons e m ih =>
      obtain ⟨k', a⟩ := e
      rw [List.cons_append, get?_cons, get?_cons, ih]
      split <;> simp

theorem get?_eq_none_iff {k : κ} {m : Entries κ α} : get? k m = none ↔ k ∉ keys m := by
  rw [mem_keys_iff]
  cases get? k m <;> simp

/-- What is written under distinct keys is found. -/
theorem get?_merge {es : Entries κ α} (h : (keys es).Nodup) (k : κ) (m : Entries κ α) :
    get? k (merge m es) = (get? k es).or (get? k m) := by
  induction es generalizing m with
  | nil => rfl
  | cons e es ih =>
      obtain ⟨k', a⟩ := e
      obtain ⟨hk', hes⟩ := List.nodup_cons.mp h
      rw [merge, List.foldl_cons, ← merge, ih hes, get?_put, get?_cons]
      by_cases hk : k' = k
      · subst hk
        simp [get?_eq_none_iff.mpr hk']
      · simp [hk]

/-- What is not written stays. -/
theorem get?_merge_of_notMem {k : κ} {es : Entries κ α} (h : k ∉ keys es) (m : Entries κ α) :
    get? k (merge m es) = get? k m := by
  induction es generalizing m with
  | nil => rfl
  | cons e es ih =>
      simp only [keys, List.map_cons, List.mem_cons, not_or] at h
      rw [merge, List.foldl_cons, ← merge, ih h.2, get?_put, if_neg (Ne.symm h.1)]

theorem put_of_notMem {k : κ} {m : Entries κ α} (h : k ∉ keys m) (a : α) :
    put k a m = m ++ [(k, a)] := by
  induction m with
  | nil => rfl
  | cons e m ih =>
      simp only [keys, List.map_cons, List.mem_cons, not_or] at h
      rw [put, if_neg (Ne.symm h.1), ih h.2, List.cons_append]

/-- Distinct keys that are new are appended. -/
theorem merge_eq_append {m es : Entries κ α} (h : (keys (m ++ es)).Nodup) :
    merge m es = m ++ es := by
  induction es generalizing m with
  | nil => simp [merge]
  | cons e es ih =>
      have hnew : e.1 ∉ keys m := by
        intro he
        simp only [keys, List.map_append, List.map_cons, List.nodup_append] at h
        exact h.2.2 e.1 he e.1 (by simp) rfl
      rw [merge, List.foldl_cons, ← merge, put_of_notMem hnew, ih (by simpa using h)]
      simp

end Entity.Entries
