import Entity.Proofs.Entries

/-!
# Merging and rearranging mappings

What rearranging, leaving out and merging do to what is found and to the order of the entries.  Main
statements: a rearranged mapping finds the same; entries may be left out before or after a merge;
and merging is associative, so that several mappings can be put on top of one another in any
grouping.
-/

namespace Entity.Entries

variable {κ α β : Type}

theorem nodup_keys_of_perm {m m' : Entries κ α} (h : m.Perm m') (hm : (keys m).Nodup) :
    (keys m').Nodup :=
  (h.map Prod.fst).nodup_iff.mp hm

/-! ## Leaving entries out -/

/-- The entries whose keys pass a test. -/
def restrict (p : κ → Bool) (m : Entries κ α) : Entries κ α := m.filter fun e => p e.1

theorem restrict_cons (p : κ → Bool) (k : κ) (a : α) (m : Entries κ α) :
    restrict p ((k, a) :: m) = if p k then (k, a) :: restrict p m else restrict p m :=
  List.filter_cons

theorem mem_restrict {p : κ → Bool} {m : Entries κ α} {e : κ × α} :
    e ∈ restrict p m ↔ e ∈ m ∧ p e.1 = true :=
  List.mem_filter

theorem keys_restrict (p : κ → Bool) (m : Entries κ α) :
    keys (restrict p m) = (keys m).filter p := by
  rw [keys, keys, restrict, List.filter_map]
  rfl

theorem nodup_keys_restrict (p : κ → Bool) {m : Entries κ α} (hm : (keys m).Nodup) :
    (keys (restrict p m)).Nodup := by
  rw [keys_restrict]
  exact hm.filter p

/-! ## Making something of the entries -/

/-- What is made of the entries, under their keys; an entry of which nothing is made is left out. -/
def pick (f : κ → α → Option β) (m : Entries κ α) : Entries κ β :=
  m.filterMap fun e => (f e.1 e.2).map fun b => (e.1, b)

theorem pick_append (f : κ → α → Option β) (m m' : Entries κ α) :
    pick f (m ++ m') = pick f m ++ pick f m' :=
  List.filterMap_append

theorem pick_perm {m m' : Entries κ α} (h : m.Perm m') (f : κ → α → Option β) :
    (pick f m).Perm (pick f m') :=
  h.filterMap _

theorem mem_pick {f : κ → α → Option β} {m : Entries κ α} {k : κ} {b : β} :
    (k, b) ∈ pick f m ↔ ∃ a, (k, a) ∈ m ∧ f k a = some b := by
  simp only [pick, List.mem_filterMap, Option.map_eq_some_iff, Prod.mk.injEq]
  constructor
  · rintro ⟨⟨k', a⟩, hmem, b', hb, rfl, rfl⟩
    exact ⟨a, hmem, hb⟩
  · rintro ⟨a, hmem, hb⟩
    exact ⟨(k, a), hmem, b, hb, rfl, rfl⟩

theorem keys_pick_sublist (f : κ → α → Option β) (m : Entries κ α) :
    (keys (pick f m)).Sublist (keys m) := by
  induction m with
  | nil => exact .slnil
  | cons e m ih =>
      rw [pick, List.filterMap_cons, ← pick]
      cases f e.1 e.2 with
      | none => exact ih.cons _
      | some b => exact ih.cons_cons _

theorem nodup_keys_pick (f : κ → α → Option β) {m : Entries κ α} (hm : (keys m).Nodup) :
    (keys (pick f m)).Nodup :=
  hm.sublist (keys_pick_sublist f m)

/-- Where something is made of every entry, no key is lost. -/
theorem keys_pick {f : κ → α → Option β} {m : Entries κ α}
    (h : ∀ e ∈ m, (f e.1 e.2).isSome = true) : keys (pick f m) = keys m := by
  induction m with
  | nil => rfl
  | cons e m ih =>
      obtain ⟨b, hb⟩ := Option.isSome_iff_exists.mp (h e (by simp))
      have hrest : keys (pick f m) = keys m := ih fun e' he' => h e' (by simp [he'])
      rw [pick, List.filterMap_cons, ← pick, hb]
      exact congrArg (e.1 :: ·) hrest

/-! ## What is found -/

variable [DecidableEq κ]

/-- A rearranged mapping finds the same. -/
theorem get?_perm {m m' : Entries κ α} (h : m.Perm m') (hm : (keys m).Nodup) (k : κ) :
    get? k m = get? k m' := by
  have hm' : (keys m').Nodup := nodup_keys_of_perm h hm
  apply Option.ext
  intro a
  rw [get?_eq_some_iff hm, get?_eq_some_iff hm', h.mem_iff]

theorem get?_restrict (p : κ → Bool) (m : Entries κ α) (k : κ) :
    get? k (restrict p m) = if p k then get? k m else none := by
  induction m with
  | nil => simp [restrict]
  | cons e m ih =>
      obtain ⟨k', a⟩ := e
      rw [restrict_cons, get?_cons]
      by_cases hk : k' = k
      · subst hk
        by_cases hp : p k' = true
        · simp [hp, get?_cons]
        · simp [hp, ih]
      · by_cases hp : p k' = true
        · simp [hp, get?_cons, hk, ih]
        · simp [hp, hk, ih]

theorem get?_pick {f : κ → α → Option β} {m : Entries κ α} (hm : (keys m).Nodup) (k : κ) :
    get? k (pick f m) = (get? k m).bind (f k) := by
  apply Option.ext
  intro b
  rw [get?_eq_some_iff (nodup_keys_pick f hm), mem_pick, Option.bind_eq_some_iff]
  constructor
  · rintro ⟨a, ha, hb⟩
    exact ⟨a, (get?_eq_some_iff hm k a).mpr ha, hb⟩
  · rintro ⟨a, ha, hb⟩
    exact ⟨a, (get?_eq_some_iff hm k a).mp ha, hb⟩

/-! ## Writing -/

theorem mem_keys_put {k k' : κ} {a : α} {m : Entries κ α} :
    k' ∈ keys (put k a m) ↔ k' ∈ keys m ∨ k' = k := by
  rw [mem_keys_iff, mem_keys_iff, get?_put]
  by_cases hk : k = k'
  · simp [hk]
  · simp [hk, Ne.symm hk]

/-- Of two writes under one key the second is seen. -/
theorem put_put (k : κ) (a a' : α) (m : Entries κ α) : put k a (put k a' m) = put k a m := by
  induction m with
  | nil => simp [put]
  | cons e m ih =>
      obtain ⟨k', b⟩ := e
      by_cases hk : k' = k
      · simp [put, hk]
      · simp [put, hk, ih]

/-- Writes under different keys can be exchanged if the first key has its place. -/
theorem put_comm {k k' : κ} (hne : k ≠ k') {m : Entries κ α} (hk : k ∈ keys m) (a a' : α) :
    put k a (put k' a' m) = put k' a' (put k a m) := by
  induction m with
  | nil => simp [keys] at hk
  | cons e m ih =>
      obtain ⟨k₀, b⟩ := e
      by_cases h₀ : k₀ = k
      · subst h₀
        simp [put, hne]
      · have hmem : k ∈ keys m := by
          simp only [keys, List.map_cons, List.mem_cons] at hk
          exact hk.resolve_left (Ne.symm h₀)
        by_cases h₀' : k₀ = k'
        · subst h₀'
          simp [put, h₀]
        · simp [put, h₀, h₀', ih hmem]

/-- A write under a key that is left out is not seen. -/
theorem restrict_put (p : κ → Bool) (k : κ) (a : α) (m : Entries κ α) :
    restrict p (put k a m) = if p k then put k a (restrict p m) else restrict p m := by
  induction m with
  | nil => by_cases hk : p k = true <;> simp [restrict, put, hk]
  | cons e m ih =>
      obtain ⟨k', a'⟩ := e
      by_cases hkk : k' = k
      · subst hkk
        by_cases hk : p k' = true <;> simp [restrict_cons, put, hk]
      · rw [put, if_neg hkk, restrict_cons, restrict_cons, ih]
        by_cases hk' : p k' = true
        · by_cases hk : p k = true <;> simp [put, hk, hk', hkk]
        · simp [hk']

/-! ## Merging -/

theorem merge_cons (m : Entries κ α) (k : κ) (a : α) (es : Entries κ α) :
    merge m ((k, a) :: es) = merge (put k a m) es := rfl

theorem merge_append (m es es' : Entries κ α) : merge m (es ++ es') = merge (merge m es) es' :=
  List.foldl_append

theorem nodup_keys_merge {m : Entries κ α} (h : (keys m).Nodup) (es : Entries κ α) :
    (keys (merge m es)).Nodup := by
  induction es generalizing m with
  | nil => exact h
  | cons e es ih => exact ih (nodup_keys_put h e.1 e.2)

theorem mem_keys_merge {k : κ} {m es : Entries κ α} :
    k ∈ keys (merge m es) ↔ k ∈ keys m ∨ k ∈ keys es := by
  induction es generalizing m with
  | nil => simp [merge, keys]
  | cons e es ih =>
      obtain ⟨k', a⟩ := e
      rw [merge_cons, ih, mem_keys_put, or_assoc]
      simp [keys]

theorem mem_merge {es : Entries κ α} (hes : (keys es).Nodup) (m : Entries κ α) {e : κ × α}
    (he : e ∈ es) : e ∈ merge m es := by
  have hget : get? e.1 es = some e.2 := (get?_eq_some_iff hes e.1 e.2).mpr he
  apply mem_of_get?_eq_some
  rw [get?_merge hes, hget, Option.some_or]

/-- Entries may be left out before a merge or after it. -/
theorem restrict_merge (p : κ → Bool) (m es : Entries κ α) :
    restrict p (merge m es) = merge (restrict p m) (restrict p es) := by
  induction es generalizing m with
  | nil => rfl
  | cons e es ih =>
      obtain ⟨k, a⟩ := e
      rw [merge_cons, ih, restrict_put, restrict_cons]
      by_cases hk : p k = true
      · rw [if_pos hk, if_pos hk, merge_cons]
      · rw [if_neg hk, if_neg hk]

/-- A write under a key that has its place, and that is not merged, can come before the merge. -/
theorem put_merge {k : κ} {m es : Entries κ α} (hk : k ∈ keys m) (hes : k ∉ keys es) (a : α) :
    put k a (merge m es) = merge (put k a m) es := by
  induction es generalizing m with
  | nil => rfl
  | cons e es ih =>
      obtain ⟨k', a'⟩ := e
      simp only [keys, List.map_cons, List.mem_cons, not_or] at hes
      have hk' : k ∈ keys (put k' a' m) := mem_keys_put.mpr (Or.inl hk)
      rw [merge_cons, merge_cons, ih hk' hes.2, put_comm hes.1 hk]

/-- Merging what was written to is writing after the merge. -/
theorem merge_put {es : Entries κ α} (hes : (keys es).Nodup) (m : Entries κ α) (k : κ) (a : α) :
    merge m (put k a es) = put k a (merge m es) := by
  induction es generalizing m with
  | nil => rfl
  | cons e es ih =>
      obtain ⟨k', a'⟩ := e
      obtain ⟨hk', hrest⟩ := List.nodup_cons.mp hes
      by_cases hk : k' = k
      · subst hk
        have hplace : k' ∈ keys (put k' a' m) := mem_keys_put.mpr (Or.inr rfl)
        rw [put, if_pos rfl, merge_cons, merge_cons, put_merge hplace hk', put_put]
      · rw [put, if_neg hk, merge_cons, merge_cons, ih hrest]

/-- **Merging is associative**, in the values and in the order of the keys. -/
theorem merge_merge {es : Entries κ α} (hes : (keys es).Nodup) (m es' : Entries κ α) :
    merge m (merge es es') = merge (merge m es) es' := by
  induction es' generalizing es with
  | nil => rfl
  | cons e es' ih =>
      obtain ⟨k, a⟩ := e
      rw [merge_cons, merge_cons, ih (nodup_keys_put hes k a), merge_put hes]

end Entity.Entries
