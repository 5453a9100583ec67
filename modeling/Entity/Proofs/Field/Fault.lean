import Entity.Proofs.Field.Refusal

/-!
# What reading fails with

Some failures have an explanation: that a text is no JSON document, and what is wrong about a
definition, an instance or a runtime.  The others are faults of some value on the way.  Main
statement: when a field is not read, it is for a fault, never with an explanation.
-/

namespace Entity

/-! ## Explanations and faults -/

/-- The failure says that a text is no JSON document, or what is wrong about definitions, instances
or runtimes. -/
def Failure.Explained (e : Failure) : Prop :=
  (∃ message, e = .fault .badJson message) ∨ e.isAboutEntities = true

theorem not_explained_fault {kind : FaultKind} (h : kind ≠ .badJson) (text : String) :
    ¬ (Failure.fault kind text).Explained := by
  rintro (⟨message, hfault⟩ | habout)
  · cases hfault
    exact h rfl
  · cases habout

/-- The computation fails, if it does, with failures of a kind. -/
def FailsOnly {α : Type} (P : Failure → Prop) (x : Except Failure α) : Prop :=
  ∀ e, x = .error e → P e

/-- The computation fails, if it does, with an explanation. -/
abbrev OnlyExplained {α : Type} (x : Except Failure α) : Prop := FailsOnly Failure.Explained x

/-- The computation fails, if it does, without an explanation. -/
abbrev OnlyFaults {α : Type} (x : Except Failure α) : Prop := FailsOnly (fun e => ¬ e.Explained) x

namespace FailsOnly

variable {α β : Type} {P : Failure → Prop}

theorem ok (a : α) : FailsOnly P (.ok a) := by
  intro e h
  cases h

theorem error {e : Failure} (h : P e) : FailsOnly P (.error e : Except Failure α) := by
  intro e' he'
  cases he'
  exact h

theorem bind_iff {x : Except Failure α} {f : α → Except Failure β} :
    FailsOnly P (x.bind f) ↔ FailsOnly P x ∧ ∀ a, x = .ok a → FailsOnly P (f a) := by
  cases x with
  | error e => simp [FailsOnly, Except.bind]
  | ok a => simp [FailsOnly, Except.bind]

theorem bind {x : Except Failure α} {f : α → Except Failure β} (hx : FailsOnly P x)
    (hf : ∀ a, FailsOnly P (f a)) : FailsOnly P (x.bind f) := bind_iff.mpr ⟨hx, fun a _ => hf a⟩

theorem map {x : Except Failure α} (hx : FailsOnly P x) (f : α → β) : FailsOnly P (x.map f) := by
  cases x with
  | error e => exact error (hx e rfl)
  | ok a => exact ok (f a)

/-- Of a sequence that fails only in one way each part that is reached does. -/
theorem mapM {f : α → Except Failure β} {as : List α} (h : ∀ a ∈ as, FailsOnly P (f a)) :
    FailsOnly P (as.mapM f) := by
  induction as with
  | nil => exact ok []
  | cons a as ih =>
      rw [List.forall_mem_cons] at h
      rw [List.mapM_cons]
      exact bind h.1 fun b => bind (ih h.2) fun bs => ok (b :: bs)

end FailsOnly

/-- Where failures are faults, an explanation is given for all of them only if there are none. -/
theorem OnlyFaults.onlyExplained_iff {α : Type} {x : Except Failure α} (h : OnlyFaults x) :
    OnlyExplained x ↔ ¬ ∃ e, x = .error e := by
  constructor
  · rintro hexplained ⟨e, he⟩
    exact h e he (hexplained e he)
  · intro hnone e he
    exact (hnone ⟨e, he⟩).elim

/-! ## Cascades -/

theorem onlyFaults_ofText (raw : String) : OnlyFaults (FilterValue.ofText raw) := by
  intro e h
  simp only [FilterValue.ofText] at h
  split at h
  · cases h
  · split at h
    · cases h
    · split at h
      · split at h
        · cases h
        · split at h
          · cases h
          · cases h
            exact not_explained_fault (by decide) _
      · cases h

theorem onlyFaults_readClauses (clauses : List (List Char)) : OnlyFaults (readClauses clauses) := by
  induction clauses with
  | nil => exact .ok _
  | cons clause clauses ih =>
      rw [readClauses]
      split
      · exact ih.map _
      · exact .bind (onlyFaults_ofText _) fun value => .bind ih fun _ => .ok _

theorem onlyFaults_readTarget (target : List Char) : OnlyFaults (readTarget target) := by
  unfold readTarget
  cases bracketed? target with
  | none => exact .ok _
  | some parts => exact .bind (onlyFaults_readClauses _) fun _ => .ok _

theorem onlyFaults_read? (text : String) : OnlyFaults (Cascade.read? text) := by
  unfold Cascade.read?
  dsimp only
  split
  · exact .ok _
  · exact .bind (onlyFaults_readTarget _) fun _ => .ok _

/-! ## Fields -/

namespace Field

theorem onlyFaults_ofText (name text : String) : OnlyFaults (Field.ofText name text).result := by
  intro e h
  cases hread : Cascade.read? text with
  | error e' =>
      rw [result_ofText_error hread] at h
      cases h
      exact onlyFaults_read? text _ hread
  | ok c =>
      obtain ⟨g, hg, -⟩ := exists_result_ofText hread name
      rw [hg] at h
      cases h

theorem onlyFaults_ofInput (name : String) (body : Value) :
    OnlyFaults (Field.ofInput name body).result := by
  cases body with
  | text text =>
      rw [result_ofInput]
      exact (onlyFaults_read? text).map _
  | _ => exact .ok _

theorem onlyFaults_requireText? (v : Value) : OnlyFaults (requireText? v) := by
  intro e h
  have hfault : e = invalidModel := by
    unfold requireText? at h
    split at h
    · cases h
    · cases h
    · split at h
      · cases h
      · cases h
        rfl
    · cases h
      rfl
  rw [hfault]
  exact not_explained_fault (by decide) _

theorem onlyFaults_ofPrompt (name prompt : String) (entries : Entries String Value) :
    OnlyFaults (Field.ofPrompt name prompt entries) :=
  .bind (onlyFaults_requireText? _) fun _ => .ok _

theorem onlyFaults_ofGenerate (name : String) (schema model body : Value) :
    OnlyFaults (Field.ofGenerate name schema model body) := by
  fun_induction Field.ofGenerate name schema model body with
  | case1 name entries => exact .bind (onlyFaults_requireText? _) fun _ => .ok _
  | case2 name element ih => exact ih.map _
  | case3 name element ih => exact ih.map _
  | case4 name body => exact .ok _

theorem onlyFaults_ofAggregateText (name text : String) :
    OnlyFaults (Field.ofAggregateText name text).result := by
  unfold Field.ofAggregateText
  split
  · rw [result_degraded]
    exact .ok _
  · split
    · exact .ok _
    · exact .error (not_explained_fault (by decide) _)

/-- Once its text is read, a link is read, perhaps with an issue. -/
theorem onlyFaults_linkEnd {x : Outcome Field} (hx : OnlyFaults x.result) (name text : String)
    (selector : Option Computation) : OnlyFaults (x >>= fun g =>
      if g.cascade.isNone then
        Field.degraded { name, description := text, source := .link }
          ("unreadable link " ++ Text.quoted text)
      else pure (g.withSelector selector) : Outcome Field).result := by
  rw [Outcome.result_bind]
  refine hx.bind fun g => ?_
  split
  · rw [result_degraded]
    exact .ok _
  · exact .ok _

theorem onlyFaults_ofLink (name : String) (body selector : Value) :
    OnlyFaults (Field.ofLink name body selector).result := by
  unfold Field.ofLink
  dsimp only
  rw [Outcome.result_bind, result_linkText]
  refine ((onlyFaults_read? _).map _).bind fun text => ?_
  -- a list of instances is read as its element, behind which the link ends alike
  split
  · refine onlyFaults_linkEnd ?_ name text _
    rw [Outcome.result_map]
    exact (onlyFaults_ofText "item" text).map _
  · exact onlyFaults_linkEnd (onlyFaults_ofText name text) name text _

theorem onlyFaults_ofMarker (name : String) (source : Source) (body : Value)
    (entries : Entries String Value) :
    OnlyFaults (Field.ofMarker name source body entries).result := by
  cases source with
  | input => exact onlyFaults_ofInput name body
  | generate => exact onlyFaults_ofGenerate name _ _ body
  | aggregate => exact onlyFaults_ofAggregateText name body.shown
  | link => exact onlyFaults_ofLink name body _
  | sync | fuzzy => exact .ok _
  | compute =>
      simp only [Field.ofMarker, Field.ofCompute]
      split
      · exact .ok _
      · rw [result_degraded]
        exact .ok _

theorem onlyFaults_ofMarked (name key : String) (source : Source) (body : Value)
    (entries : Entries String Value) :
    OnlyFaults (Field.ofMarked name key source body entries).result := by
  rw [Field.ofMarked, Outcome.result_bind]
  refine (onlyFaults_ofMarker name source body entries).bind fun f => ?_
  rw [result_degradedBy]
  exact .ok _

theorem onlyFaults_readEntries {entries : List (String × Value)}
    (h : ∀ e ∈ entries, ∀ name, OnlyFaults (Field.read name e.2).result) :
    OnlyFaults (Field.readEntries entries).result := by
  induction entries with
  | nil => exact .ok _
  | cons e entries ih =>
      rw [List.forall_mem_cons] at h
      rw [Field.readEntries]
      split
      · exact ih h.2
      · rw [Outcome.result_bind]
        refine (h.1 e.1).bind fun f => ?_
        rw [Outcome.result_bind]
        exact (ih h.2).bind fun fs => .ok _

theorem onlyFaults_read_items {v : Value} {items : List Value} (hv : v.items? = some items)
    (ih : ∀ v ∈ items, ∀ name, OnlyFaults (Field.read name v).result) (name : String) :
    OnlyFaults (Field.read name v).result := by
  rcases read_items_cases hv name with ⟨element, rfl, hread⟩ | ⟨-, hread⟩
  · rw [hread, Outcome.result_map]
    exact (ih element (by simp) "item").map _
  · rw [hread, Field.ofWrongLength, result_degraded]
    exact .ok _

/-- **Fields that are not read.**  Whatever a field is read from, the reading fails with a fault of
the value, if it fails. -/
theorem onlyFaults_read (v : Value) (name : String) : OnlyFaults (Field.read name v).result := by
  induction v using Value.induct_members generalizing name with
  | leaf v hmap hitems =>
      intro e h
      -- of the values without members only a text is refused
      cases (exists_read_leaf_error_iff hmap hitems name).mp ⟨e, h⟩ with
      | text =>
          rw [Field.read] at h
          exact onlyFaults_ofText name _ e h
      | list | tuple => cases hitems
      | marked | prompt | member => cases hmap
  | list items ih => exact onlyFaults_read_items rfl ih name
  | tuple items ih => exact onlyFaults_read_items rfl ih name
  | map entries ih =>
      rw [Field.read]
      split
      · exact onlyFaults_ofMarked name _ _ _ entries
      · split
        · exact onlyFaults_ofPrompt name _ entries
        · split
          · exact .ok _
          · rw [Outcome.result_bind]
            exact (onlyFaults_readEntries ih).bind fun fs => .ok _

end Field

end Entity
