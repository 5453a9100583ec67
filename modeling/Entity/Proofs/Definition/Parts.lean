import Entity.Proofs.Definition.Reading
import Entity.Proofs.Entries.Merging
import Mathlib.Data.List.Perm.Subperm

/-!
# The parts of a definition

Every entry of a mapping whose key is not reserved makes one part of a definition: a field, or a
handler of one of four kinds.  Main statements: what routing one entry does, and from it by
induction what routing all of them does; a mapping can be routed exactly if every entry makes
something and no two make a migration to the same version, and then each of the five maps holds what
the entries make of its kind, in their order; a definition is read exactly if this and its metadata
can be read.
-/

namespace Entity

/-! ## Reading keys -/

namespace Value

variable {raw raw' : Entries String Value} {key : String} {v : Value}

theorem lookup_of_get?_eq_some (h : Entries.get? key raw = some v) : lookup raw key = v := by
  rw [lookup, h]
  rfl

theorem lookup_of_get?_eq_none (h : Entries.get? key raw = none) : lookup raw key = .null := by
  rw [lookup, h]
  rfl

theorem lookup_congr (h : Entries.get? key raw = Entries.get? key raw') :
    lookup raw key = lookup raw' key := by
  rw [lookup, lookup, h]

end Value

/-! ## What an entry makes -/

/-- What an entry makes of a definition. -/
inductive Part where
  | field (f : Field)
  | event (h : Callable)
  | schedule (h : Callable)
  | cron (h : Callable)
  /-- A migration to a version. -/
  | migration (target : Nat) (h : Callable)

namespace Part

/-- The field of a value that is no handler. -/
def ofField? (key : String) (v : Value) : Option Part :=
  (Field.read key v).result.toOption.map field

/-- What a value makes under a key; nothing, if it cannot be read there. -/
def of? (key : String) : Value → Option Part
  | .function h => match KeyForm.ofKey key with
    | .migration digits => (migrationTarget digits).toOption.map (migration · h)
    | .event => some (event h)
    | .schedule => some (schedule h)
    | .cron => some (cron h)
    | .field => ofField? key (.function h)
  | v => ofField? key v

/-- The field that the part is. -/
def field? : Part → Option Field
  | field f => some f
  | _ => none

/-- The handler of an event that the part is. -/
def event? : Part → Option Callable
  | event h => some h
  | _ => none

/-- The handler of a schedule that the part is. -/
def schedule? : Part → Option Callable
  | schedule h => some h
  | _ => none

/-- The handler of a cron expression that the part is. -/
def cron? : Part → Option Callable
  | cron h => some h
  | _ => none

/-- The migration that the part is, with its version. -/
def migration? : Part → Option (Nat × Callable)
  | migration target h => some (target, h)
  | _ => none

end Part

/-- The entries of a mapping whose keys are not reserved. -/
def unreserved (raw : Entries String Value) : Entries String Value :=
  Entries.restrict (fun k => !isReserved k) raw

/-- What the entries of a mapping make, under their keys. -/
def partsIn (raw : Entries String Value) : Entries String Part :=
  Entries.pick Part.of? (unreserved raw)

/-- The five maps of parts; each holds the parts of its kind, in order. -/
def Routed.ofParts (ps : Entries String Part) : Routed where
  fields := Entries.pick (fun _ p => p.field?) ps
  events := Entries.pick (fun _ p => p.event?) ps
  schedules := Entries.pick (fun _ p => p.schedule?) ps
  crons := Entries.pick (fun _ p => p.cron?) ps
  migrations := ps.filterMap fun e => e.2.migration?

/-- The versions that the migrations among parts lead to. -/
def targets (ps : Entries String Part) : List Nat := Entries.keys (Routed.ofParts ps).migrations

/-- Every entry that is not reserved makes something, and no two make a migration to one version. -/
structure Routable (raw : Entries String Value) : Prop where
  parts : ∀ e ∈ unreserved raw, (Part.of? e.1 e.2).isSome = true
  targets : (targets (partsIn raw)).Nodup

/-! ## Routing -/

namespace Routed

/-- All that is in one of two, the second in the place of the first. -/
def merge (r s : Routed) : Routed where
  fields := Entries.merge r.fields s.fields
  events := Entries.merge r.events s.events
  schedules := Entries.merge r.schedules s.schedules
  crons := Entries.merge r.crons s.crons
  migrations := Entries.merge r.migrations s.migrations

theorem merge_ofParts_append (r : Routed) (ps qs : Entries String Part) :
    r.merge (ofParts (ps ++ qs)) = (r.merge (ofParts ps)).merge (ofParts qs) := by
  simp only [merge, ofParts, Entries.pick_append, List.filterMap_append, Entries.merge_append]

/-- The part is added: it meets no migration to its version. -/
theorem adds_iff {r r' : Routed} {key : String} {p : Part}
    (hp : (targets [(key, p)]).Disjoint (Entries.keys r.migrations)) :
    (pure (r.merge (ofParts [(key, p)])) : Outcome Routed).result = .ok r' ↔
      ∃ q, some p = some q ∧ (targets [(key, q)]).Disjoint (Entries.keys r.migrations) ∧
        r' = r.merge (ofParts [(key, q)]) := by
  constructor
  · intro h
    cases h
    exact ⟨p, rfl, hp, rfl⟩
  · rintro ⟨q, hq, -, rfl⟩
    cases hq
    rfl

theorem addField_eq_ok_iff {r r' : Routed} {key : String} {v : Value} :
    (r.addField key v).result = .ok r' ↔ ∃ p, Part.ofField? key v = some p ∧
      (targets [(key, p)]).Disjoint (Entries.keys r.migrations) ∧
      r' = r.merge (ofParts [(key, p)]) := by
  rw [addField, Outcome.result_bind, Part.ofField?]
  cases (Field.read key v).result with
  | error e => simp [Except.bind, Except.toOption]
  | ok f => exact adds_iff (p := .field f) (List.disjoint_nil_left _)

/-- **What routing an entry does**: a reserved entry is passed over, and another adds what it makes,
unless this is a migration to a version that has one. -/
theorem add_eq_ok_iff {r r' : Routed} {type : String} {version : Int} {key : String} {v : Value} :
    (r.add type version key v).result = .ok r' ↔
      (isReserved key = true ∧ r' = r) ∨ (isReserved key = false ∧ ∃ p, Part.of? key v = some p ∧
        (targets [(key, p)]).Disjoint (Entries.keys r.migrations) ∧
        r' = r.merge (ofParts [(key, p)])) := by
  unfold add
  cases hkey : isReserved key with
  | true => simp [eq_comm]
  | false =>
      simp only [Bool.false_eq_true, if_false, false_and, false_or, true_and]
      cases v
      case function h =>
        dsimp only [Part.of?]
        cases KeyForm.ofKey key with
        | migration digits =>
            dsimp only
            rw [Outcome.result_bind, Outcome.result_lift]
            cases migrationTarget digits with
            | error e => simp [Except.bind, Except.toOption]
            | ok target =>
                -- only a migration can meet another
                by_cases hmem : target ∈ Entries.keys r.migrations
                · have hhas : Entries.has target r.migrations = true := Entries.mem_keys_iff.mp hmem
                  have hmeets : ¬ (targets [(key, .migration target h)]).Disjoint
                      (Entries.keys r.migrations) := fun hfree =>
                    List.singleton_disjoint.mp hfree hmem
                  simp [Except.bind, Except.toOption, hhas, hmeets]
                · have hhas : Entries.has target r.migrations = false := by
                    rw [Entries.has, ← Bool.not_eq_true, ← Entries.mem_keys_iff]
                    exact hmem
                  have hfree : (targets [(key, .migration target h)]).Disjoint
                      (Entries.keys r.migrations) := List.singleton_disjoint.mpr hmem
                  change (ite _ _ _ : Outcome Routed).result = _ ↔ _
                  rw [if_neg (by simp [hhas])]
                  exact adds_iff hfree
        | event => exact adds_iff (p := .event h) (List.disjoint_nil_left _)
        | schedule => exact adds_iff (p := .schedule h) (List.disjoint_nil_left _)
        | cron => exact adds_iff (p := .cron h) (List.disjoint_nil_left _)
        | field => exact addField_eq_ok_iff
      all_goals exact addField_eq_ok_iff

end Routed

/-! ### Parts of several entries -/

theorem unreserved_cons (e : String × Value) (raw : Entries String Value) :
    unreserved (e :: raw) = if isReserved e.1 then unreserved raw else e :: unreserved raw := by
  obtain ⟨key, v⟩ := e
  rw [unreserved, Entries.restrict_cons, ← unreserved]
  cases isReserved key <;> rfl

theorem mem_unreserved {raw : Entries String Value} {e : String × Value} :
    e ∈ unreserved raw ↔ e ∈ raw ∧ isReserved e.1 = false := by
  rw [unreserved, Entries.mem_restrict, Bool.not_eq_true']

theorem targets_append (ps qs : Entries String Part) :
    targets (ps ++ qs) = targets ps ++ targets qs := by
  simp [targets, Routed.ofParts, Entries.keys]

theorem nodup_targets_singleton (e : String × Part) : (targets [e]).Nodup := by
  obtain ⟨key, p⟩ := e
  cases p with
  | migration target h => exact List.nodup_singleton target
  | _ => exact List.nodup_nil

theorem mem_keys_migrations_merge {r : Routed} {ps : Entries String Part} {t : Nat} :
    t ∈ Entries.keys (r.merge (.ofParts ps)).migrations ↔
      t ∈ Entries.keys r.migrations ∨ t ∈ targets ps :=
  Entries.mem_keys_merge

theorem partsIn_cons {e : String × Value} {p : Part} (hkey : isReserved e.1 = false)
    (hp : Part.of? e.1 e.2 = some p) (raw : Entries String Value) :
    partsIn (e :: raw) = [(e.1, p)] ++ partsIn raw := by
  rw [partsIn, partsIn, unreserved_cons, hkey, if_neg (by simp), ← List.singleton_append,
    Entries.pick_append]
  simp [Entries.pick, hp]

/-- An entry that makes something stands before a mapping that can be routed exactly if the whole
can be routed and meets no migration. -/
theorem routable_cons_iff {e : String × Value} {raw : Entries String Value} {p : Part}
    (hkey : isReserved e.1 = false) (hp : Part.of? e.1 e.2 = some p) :
    Routable (e :: raw) ↔ Routable raw ∧ (targets (partsIn raw)).Disjoint (targets [(e.1, p)]) := by
  have hcons : unreserved (e :: raw) = e :: unreserved raw := by
    rw [unreserved_cons, hkey]
    rfl
  have htargets : targets (partsIn (e :: raw)) = targets [(e.1, p)] ++ targets (partsIn raw) := by
    rw [partsIn_cons hkey hp, targets_append]
  constructor
  · rintro ⟨hall, hnodup⟩
    rw [hcons] at hall
    rw [htargets, List.nodup_append'] at hnodup
    exact ⟨⟨fun e' he' => hall e' (List.mem_cons_of_mem _ he'), hnodup.2.1⟩,
      List.disjoint_symm hnodup.2.2⟩
  · rintro ⟨⟨hall, hnodup⟩, hfree⟩
    refine ⟨?_, ?_⟩
    · rw [hcons, List.forall_mem_cons, hp]
      exact ⟨rfl, hall⟩
    · rw [htargets, List.nodup_append']
      exact ⟨nodup_targets_singleton _, hnodup, List.disjoint_symm hfree⟩

/-! ### Runs -/

namespace Routed

/-- **What routing all entries does**, by induction on them: each adds what it makes. -/
theorem addAll_eq_ok_iff {r r' : Routed} {type : String} {version : Int}
    {raw : Entries String Value} :
    (r.addAll type version raw).result = .ok r' ↔
      Routable raw ∧ (targets (partsIn raw)).Disjoint (Entries.keys r.migrations) ∧
        r' = r.merge (ofParts (partsIn raw)) := by
  induction raw generalizing r with
  | nil =>
      constructor
      · intro h
        cases h
        exact ⟨⟨nofun, List.nodup_nil⟩, List.disjoint_nil_left _, rfl⟩
      · rintro ⟨-, -, rfl⟩
        rfl
  | cons e raw ih =>
      simp only [addAll, Outcome.result_bind, bind_eq_ok, add_eq_ok_iff]
      cases hkey : isReserved e.1 with
      | true =>
          have hsame : unreserved (e :: raw) = unreserved raw := by
            rw [unreserved_cons, if_pos hkey]
          have hparts : partsIn (e :: raw) = partsIn raw := by rw [partsIn, hsame, partsIn]
          have hroutable : Routable (e :: raw) ↔ Routable raw := by
            constructor <;> rintro ⟨hall, hnodup⟩
            · exact ⟨hsame ▸ hall, hparts ▸ hnodup⟩
            · exact ⟨hsame.symm ▸ hall, hparts.symm ▸ hnodup⟩
          rw [hparts, hroutable, ← ih]
          simp
      | false =>
          cases hp : Part.of? e.1 e.2 with
          | none =>
              -- the entry makes nothing, so that neither side holds
              have hnot : ¬ Routable (e :: raw) := by
                intro h
                have hsome := h.parts e (mem_unreserved.mpr ⟨by simp, hkey⟩)
                simp [hp] at hsome
              simp [hnot]
          | some p =>
              rw [routable_cons_iff hkey hp, partsIn_cons hkey hp, targets_append,
                merge_ofParts_append, List.disjoint_append_left]
              simp only [ih]
              constructor
              · rintro ⟨r₁, hstep, hroutable, hfree, rfl⟩
                obtain ⟨-, q, hq, hmeets, rfl⟩ := hstep.resolve_left (by simp)
                cases hq
                have hboth : (targets (partsIn raw)).Disjoint (Entries.keys r.migrations) ∧
                    (targets (partsIn raw)).Disjoint (targets [(e.1, p)]) := by
                  rw [← List.disjoint_append_right]
                  intro t ht hmem
                  exact hfree ht (mem_keys_migrations_merge.mpr (List.mem_append.mp hmem))
                exact ⟨⟨hroutable, hboth.2⟩, ⟨hmeets, hboth.1⟩, rfl⟩
              · rintro ⟨⟨hroutable, hown⟩, ⟨hmeets, hfree⟩, rfl⟩
                refine ⟨_, Or.inr ⟨trivial, p, rfl, hmeets, rfl⟩, hroutable, ?_, rfl⟩
                intro t ht hmem
                rcases mem_keys_migrations_merge.mp hmem with hmem | hmem
                · exact hfree ht hmem
                · exact hown ht hmem

/-- Into nothing, parts under distinct keys are merged as they are. -/
theorem merge_empty {ps : Entries String Part} (hps : (Entries.keys ps).Nodup)
    (htargets : (targets ps).Nodup) : merge {} (ofParts ps) = ofParts ps := by
  have hnil : ∀ {κ α : Type} [DecidableEq κ] {m : Entries κ α}, (Entries.keys m).Nodup →
      Entries.merge [] m = m := fun hm => Entries.merge_eq_append (by simpa using hm)
  have hpick : ∀ {β : Type} (f : Part → Option β),
      Entries.merge [] (Entries.pick (fun _ p => f p) ps) = Entries.pick (fun _ p => f p) ps :=
    fun f => hnil (Entries.nodup_keys_pick _ hps)
  have hmigrations : Entries.merge [] (ofParts ps).migrations = (ofParts ps).migrations :=
    hnil htargets
  simp only [merge, hmigrations]
  simp only [ofParts, hpick]

end Routed

theorem nodup_keys_unreserved {raw : Entries String Value} (hraw : (Entries.keys raw).Nodup) :
    (Entries.keys (unreserved raw)).Nodup :=
  Entries.nodup_keys_restrict _ hraw

theorem nodup_keys_partsIn {raw : Entries String Value} (hraw : (Entries.keys raw).Nodup) :
    (Entries.keys (partsIn raw)).Nodup :=
  Entries.nodup_keys_pick _ (nodup_keys_unreserved hraw)

/-- Fewer entries can be routed. -/
theorem Routable.of_subset {raw raw' : Entries String Value} (h : Routable raw)
    (hraw' : (Entries.keys raw').Nodup) (hsub : unreserved raw' ⊆ unreserved raw) :
    Routable raw' := by
  have hparts : partsIn raw' ⊆ partsIn raw := by
    intro e he
    obtain ⟨v, hv, hpart⟩ := Entries.mem_pick.mp he
    exact Entries.mem_pick.mpr ⟨v, hsub hv, hpart⟩
  have hnodup : (partsIn raw').Nodup := (nodup_keys_partsIn hraw').of_map _
  obtain ⟨ps, hperm, hsublist⟩ := List.subperm_of_subset hnodup hparts
  refine ⟨fun e he => h.parts e (hsub he), ?_⟩
  have htargets : (Entity.targets ps).Nodup := h.targets.sublist ((hsublist.filterMap _).map _)
  exact ((hperm.filterMap _).map _).nodup_iff.mp htargets

/-- **A mapping that can be routed is routed to what its entries make.** -/
theorem Routed.addAll_empty_iff {raw : Entries String Value} (hraw : (Entries.keys raw).Nodup)
    {r : Routed} {type : String} {version : Int} :
    (addAll type version {} raw).result = .ok r ↔ Routable raw ∧ r = ofParts (partsIn raw) := by
  rw [addAll_eq_ok_iff]
  constructor
  · rintro ⟨hroutable, -, rfl⟩
    exact ⟨hroutable, merge_empty (nodup_keys_partsIn hraw) hroutable.targets⟩
  · rintro ⟨hroutable, rfl⟩
    exact ⟨hroutable, List.disjoint_nil_right _,
      (merge_empty (nodup_keys_partsIn hraw) hroutable.targets).symm⟩

/-! ## Definitions -/

namespace Definition

/-- The five maps that keys are routed to. -/
def routed (d : Definition) : Routed where
  fields := d.fields
  events := d.events
  schedules := d.schedules
  crons := d.crons
  migrations := d.migrations

variable {d : Definition} {raw : Entries String Value} {r : Routed}

/-- The identity that a value denotes. -/
def identity? : Value → Option String
  | .null => none
  | v => some v.shown

theorem ReadFrom.id_eq (h : d.ReadFrom raw r) : d.id = identity? (Value.lookup raw "$id") := h.id

theorem ReadFrom.routed_eq (h : d.ReadFrom raw r) : d.routed = r := by
  rw [Definition.routed, h.fields, h.events, h.schedules, h.crons, h.migrations]

/-- What a definition is read from is enough to read it. -/
theorem ReadFrom.read (h : d.ReadFrom raw r) : (Definition.read raw).result = .ok d := by
  have hnamed : d.type.isEmpty = false := by simpa using h.named
  have hcascades : cascadesOf r.fields = d.cascades := by rw [h.cascades, h.fields]
  rw [Definition.read]
  simp only [h.type, hnamed, Bool.false_eq_true, if_false, Outcome.result_bind,
    Outcome.result_pure, Outcome.result_lift, h.version, h.routed, h.enrichments, h.context,
    Outcome.result_warnAll, Except.bind]
  have hid := h.id
  obtain rfl := h.origin
  rw [hcascades, ← h.parent, ← h.seed, ← h.fields, ← h.events, ← h.schedules,
    ← h.crons, ← h.migrations]
  exact congrArg (fun id => Except.ok { d with id }) hid.symm

/-- A mapping with a type whose entries can be routed, and whose metadata can be read, is that of a
definition. -/
theorem exists_readFrom_of {type : String} {version : Int} {enrichments : List Enrichment}
    {context : Option String} (htype : Entries.get? "$type" raw = some (.text type))
    (hnamed : type ≠ "") (hversion : readVersion type (Value.lookup raw "$version") = .ok version)
    (henrichments : readEnrichments type (Value.lookup raw "$enrich") = .ok enrichments)
    (hcontext : readContext (Value.lookup raw "$context")
      (readParent (Value.lookup raw "$extends")).2 = .ok context)
    (hrouted : (Routed.addAll type version {} raw).result = .ok r) :
    ∃ d : Definition, d.ReadFrom raw r ∧ d.type = type ∧ d.version = version ∧
      d.enrichments = enrichments ∧ d.context = context := by
  let d : Definition := {
    raw, type, version, enrichments, context
    id := identity? (Value.lookup raw "$id")
    parent := (readParent (Value.lookup raw "$extends")).1
    seed := Value.lookup raw "$seed"
    fields := r.fields
    cascades := cascadesOf r.fields
    events := r.events
    schedules := r.schedules
    crons := r.crons
    migrations := r.migrations }
  exact ⟨d, ⟨rfl, htype, hnamed, hversion, rfl, hcontext, rfl, rfl, henrichments, hrouted, rfl, rfl,
    rfl, rfl, rfl, rfl⟩, rfl, rfl, rfl, rfl⟩

/-- **A definition is read exactly if its entries can be routed and its metadata can be read**, and
it holds what its entries make. -/
theorem read_eq_ok_iff (hraw : (Entries.keys raw).Nodup) :
    (Definition.read raw).result = .ok d ↔
      Routable raw ∧ d.ReadFrom raw (.ofParts (partsIn raw)) := by
  constructor
  · intro h
    obtain ⟨r, hr⟩ := exists_readFrom h
    obtain ⟨hroutable, rfl⟩ := (Routed.addAll_empty_iff hraw).mp hr.routed
    exact ⟨hroutable, hr⟩
  · intro h
    exact h.2.read

end Definition

end Entity
