import Entity.Proofs.Definition.Parts

/-!
# Routing is a partition

The keys of a mapping that are not reserved are shared out over five maps.  Main statements: the
entries of the five maps are, up to their order, what the entries of the mapping make, each in a
place of its own; the relationships are those of the fields; and the order of a mapping decides
nothing but the order within each map.
-/

namespace Entity

/-! ## Shares -/

/-- An entry of one of the five maps of a definition. -/
inductive Share where
  | field (name : String) (f : Field)
  | event (key : String) (h : Callable)
  | schedule (key : String) (h : Callable)
  | cron (key : String) (h : Callable)
  | migration (target : Nat) (h : Callable)

/-- Where a share stands: in which map, and under which key of it. -/
inductive Share.Place where
  | field (name : String)
  | event (key : String)
  | schedule (key : String)
  | cron (key : String)
  | migration (target : Nat)

namespace Share

/-- Where a share stands. -/
def place : Share → Place
  | field name _ => .field name
  | event key _ => .event key
  | schedule key _ => .schedule key
  | cron key _ => .cron key
  | migration target _ => .migration target

/-- The share that a part is: it stands under the key of its entry, a migration under its version. -/
def ofPart : String × Part → Share
  | (key, .field f) => field key f
  | (key, .event h) => event key h
  | (key, .schedule h) => schedule key h
  | (key, .cron h) => cron key h
  | (_, .migration target h) => migration target h

end Share

/-- All entries of the five maps, map by map. -/
def Routed.shares (r : Routed) : List Share :=
  r.fields.map (fun e => .field e.1 e.2) ++ (r.events.map (fun e => .event e.1 e.2) ++
    (r.schedules.map (fun e => .schedule e.1 e.2) ++ (r.crons.map (fun e => .cron e.1 e.2) ++
      r.migrations.map fun e => .migration e.1 e.2)))

theorem perm_append_cons {α : Type} {l l' : List α} {a : α} (h : l.Perm (a :: l')) (m : List α) :
    (m ++ l).Perm (a :: (m ++ l')) :=
  (h.append_left m).trans List.perm_middle

/-- Each part is in one of the five maps, and nothing else is. -/
theorem Routed.shares_ofParts (ps : Entries String Part) :
    (ofParts ps).shares.Perm (ps.map Share.ofPart) := by
  induction ps with
  | nil => exact .nil
  | cons e ps ih =>
      obtain ⟨key, p⟩ := e
      have hfirst : (ofParts ((key, p) :: ps)).shares.Perm
          (Share.ofPart (key, p) :: (ofParts ps).shares) := by
        -- the part is the first of its own map, with the maps before it on its left
        cases p with
        | field f => exact .refl _
        | event h => exact perm_append_cons (.refl _) _
        | schedule h => exact perm_append_cons (perm_append_cons (.refl _) _) _
        | cron h => exact perm_append_cons (perm_append_cons (perm_append_cons (.refl _) _) _) _
        | migration target h =>
            exact perm_append_cons
              (perm_append_cons (perm_append_cons (perm_append_cons (.refl _) _) _) _) _
      exact hfirst.trans (ih.cons _)

/-- The keys of each map are distinct. -/
structure Routed.DistinctKeys (r : Routed) : Prop where
  fields : (Entries.keys r.fields).Nodup
  events : (Entries.keys r.events).Nodup
  schedules : (Entries.keys r.schedules).Nodup
  crons : (Entries.keys r.crons).Nodup
  migrations : (Entries.keys r.migrations).Nodup

theorem Routed.distinctKeys_ofParts {ps : Entries String Part} (hps : (Entries.keys ps).Nodup)
    (htargets : (targets ps).Nodup) : (ofParts ps).DistinctKeys :=
  ⟨Entries.nodup_keys_pick (fun _ => Part.field?) hps,
    Entries.nodup_keys_pick (fun _ => Part.event?) hps,
    Entries.nodup_keys_pick (fun _ => Part.schedule?) hps,
    Entries.nodup_keys_pick (fun _ => Part.cron?) hps, htargets⟩

/-- No two shares stand in one place. -/
theorem Routed.DistinctKeys.nodup_places {r : Routed} (h : r.DistinctKeys) :
    (r.shares.map Share.place).Nodup := by
  have hmap {κ α : Type} (place : κ → Share.Place) (hplace : Function.Injective place)
      {m : Entries κ α} (hm : (Entries.keys m).Nodup) : (m.map fun e => place e.1).Nodup := by
    have hkeys : m.map (fun e => place e.1) = (Entries.keys m).map place := by
      rw [Entries.keys, List.map_map]
      rfl
    rw [hkeys]
    exact hm.map hplace
  have hfields := hmap .field (fun _ _ => Share.Place.field.inj) h.fields
  have hevents := hmap .event (fun _ _ => Share.Place.event.inj) h.events
  have hschedules := hmap .schedule (fun _ _ => Share.Place.schedule.inj) h.schedules
  have hcrons := hmap .cron (fun _ _ => Share.Place.cron.inj) h.crons
  have hmigrations := hmap .migration (fun _ _ => Share.Place.migration.inj) h.migrations
  simp only [shares, List.map_append, List.map_map, List.nodup_append']
  -- places in different maps are different
  refine ⟨hfields, ⟨hevents, ⟨hschedules, ⟨hcrons, hmigrations, ?_⟩, ?_⟩, ?_⟩, ?_⟩ <;>
  · intro place hleft hright
    simp only [List.mem_append, List.mem_map, Function.comp] at hleft hright
    obtain ⟨e, -, rfl⟩ := hleft
    simp [Share.place] at hright

/-! ## The order of a mapping -/

theorem partsIn_perm {raw raw' : Entries String Value} (h : raw.Perm raw') :
    (partsIn raw).Perm (partsIn raw') :=
  Entries.pick_perm (h.filter _) _

theorem Routable.perm {raw raw' : Entries String Value} (hraw : Routable raw)
    (h : raw.Perm raw') : Routable raw' := by
  have hunreserved : (unreserved raw).Perm (unreserved raw') := h.filter _
  have htargets : (Entity.targets (partsIn raw)).Perm (Entity.targets (partsIn raw')) :=
    ((partsIn_perm h).filterMap _).map _
  exact ⟨fun e he => hraw.parts e (hunreserved.mem_iff.mpr he), htargets.nodup_iff.mp hraw.targets⟩

/-- The definitions differ in the order of their entries alone. -/
structure Definition.SameUpToOrder (d d' : Definition) : Prop where
  type : d'.type = d.type
  version : d'.version = d.version
  context : d'.context = d.context
  parent : d'.parent = d.parent
  id : d'.id = d.id
  seed : d'.seed = d.seed
  enrichments : d'.enrichments = d.enrichments
  fields : d.fields.Perm d'.fields
  cascades : d.cascades.Perm d'.cascades
  events : d.events.Perm d'.events
  schedules : d.schedules.Perm d'.schedules
  crons : d.crons.Perm d'.crons
  migrations : d.migrations.Perm d'.migrations

/-- A rearranged mapping is read to the same definition, up to the order of its entries. -/
theorem Definition.exists_read_of_perm {raw raw' : Entries String Value} (h : raw.Perm raw')
    (hraw : (Entries.keys raw).Nodup) {d : Definition} (hd : (Definition.read raw).result = .ok d) :
    ∃ d', (Definition.read raw').result = .ok d' ∧ d.SameUpToOrder d' := by
  obtain ⟨hroutable, hfrom⟩ := (read_eq_ok_iff hraw).mp hd
  have hraw' : (Entries.keys raw').Nodup := Entries.nodup_keys_of_perm h hraw
  have hget (key : String) : Entries.get? key raw' = Entries.get? key raw :=
    (Entries.get?_perm h hraw key).symm
  have hlookup (key : String) : Value.lookup raw' key = Value.lookup raw key :=
    Value.lookup_congr (hget key)
  have hrouted : (Routed.addAll d.type d.version {} raw').result = .ok (.ofParts (partsIn raw')) :=
    (Routed.addAll_empty_iff hraw').mpr ⟨hroutable.perm h, rfl⟩
  have htype : Entries.get? "$type" raw' = some (.text d.type) := by rw [hget, hfrom.type]
  have hversion : readVersion d.type (Value.lookup raw' "$version") = .ok d.version := by
    rw [hlookup, hfrom.version]
  have henrichments : readEnrichments d.type (Value.lookup raw' "$enrich") = .ok d.enrichments := by
    rw [hlookup, hfrom.enrichments]
  have hcontext : readContext (Value.lookup raw' "$context")
      (readParent (Value.lookup raw' "$extends")).2 = .ok d.context := by
    rw [hlookup, hlookup, hfrom.context]
  obtain ⟨d', hfrom', htype, hversion, henrichments, hcontext⟩ :=
    exists_readFrom_of htype hfrom.named hversion henrichments hcontext hrouted
  have hpick {β : Type} (f : Part → Option β) :
      (Entries.pick (fun _ p => f p) (partsIn raw)).Perm
        (Entries.pick (fun _ p => f p) (partsIn raw')) :=
    Entries.pick_perm (partsIn_perm h) _
  have hfields : d.fields.Perm d'.fields := by
    rw [hfrom.fields, hfrom'.fields]
    exact hpick Part.field?
  refine ⟨d', hfrom'.read, ⟨htype, hversion, hcontext, ?_, ?_, ?_, henrichments, hfields, ?_, ?_,
    ?_, ?_, ?_⟩⟩
  · rw [hfrom'.parent, hfrom.parent, hlookup]
  · rw [hfrom'.id_eq, hfrom.id_eq, hlookup]
  · rw [hfrom'.seed, hfrom.seed, hlookup]
  · rw [hfrom.cascades, hfrom'.cascades]
    exact hfields.filterMap _
  · rw [hfrom.events, hfrom'.events]
    exact hpick Part.event?
  · rw [hfrom.schedules, hfrom'.schedules]
    exact hpick Part.schedule?
  · rw [hfrom.crons, hfrom'.crons]
    exact hpick Part.cron?
  · rw [hfrom.migrations, hfrom'.migrations]
    exact (partsIn_perm h).filterMap _

/-! ## The partition -/

/-- The entries of a mapping are shared out over a definition. -/
structure Definition.SharesOut (d : Definition) (raw : Entries String Value) : Prop where
  /-- Every key that is not reserved makes a part. -/
  every : Entries.keys (partsIn raw) = Entries.keys (unreserved raw)
  /-- Each part is one share, and there are no other shares. -/
  shares : d.routed.shares.Perm ((partsIn raw).map Share.ofPart)
  /-- No two shares stand in one place. -/
  places : (d.routed.shares.map Share.place).Nodup
  /-- The relationships are those of the fields. -/
  cascades : ∀ name, Entries.get? name d.cascades = (Entries.get? name d.fields).bind Field.cascade

theorem Definition.ReadFrom.sharesOut {d : Definition} {raw : Entries String Value}
    (h : d.ReadFrom raw (.ofParts (partsIn raw))) (hraw : (Entries.keys raw).Nodup)
    (hroutable : Routable raw) : d.SharesOut raw := by
  have hdistinct : d.routed.DistinctKeys := by
    rw [h.routed_eq]
    exact Routed.distinctKeys_ofParts (nodup_keys_partsIn hraw) hroutable.targets
  refine ⟨Entries.keys_pick hroutable.parts, ?_, hdistinct.nodup_places, fun name => ?_⟩
  · rw [h.routed_eq]
    exact Routed.shares_ofParts _
  · have hfields : (Entries.keys d.fields).Nodup := hdistinct.fields
    have hpick : d.cascades = Entries.pick (fun _ f => f.cascade) d.fields := h.cascades
    rw [hpick, Entries.get?_pick hfields]

/-- **Routing is a partition, and it does not depend on the order of the keys.** -/
theorem Definition.sharesOut_of_read {raw : Entries String Value}
    (hraw : (Entries.keys raw).Nodup) :
    (∀ d, (Definition.read raw).result = .ok d → d.SharesOut raw) ∧
    ∀ raw', raw.Perm raw' →
      ((∃ d, (Definition.read raw).result = .ok d) ↔
        ∃ d', (Definition.read raw').result = .ok d') ∧
      ∀ d d', (Definition.read raw).result = .ok d → (Definition.read raw').result = .ok d' →
        d.SameUpToOrder d' := by
  refine ⟨?_, ?_⟩
  · intro d hd
    obtain ⟨hroutable, hfrom⟩ := (Definition.read_eq_ok_iff hraw).mp hd
    exact hfrom.sharesOut hraw hroutable
  · intro raw' h
    have hraw' : (Entries.keys raw').Nodup := Entries.nodup_keys_of_perm h hraw
    refine ⟨⟨?_, ?_⟩, ?_⟩
    · rintro ⟨d, hd⟩
      obtain ⟨d', hd', -⟩ := Definition.exists_read_of_perm h hraw hd
      exact ⟨d', hd'⟩
    · rintro ⟨d', hd'⟩
      obtain ⟨d, hd, -⟩ := Definition.exists_read_of_perm h.symm hraw' hd'
      exact ⟨d, hd⟩
    · intro d d' hd hd'
      obtain ⟨d'', hd'', hsame⟩ := Definition.exists_read_of_perm h hraw hd
      rw [hd'] at hd''
      cases hd''
      exact hsame

/-- A mapping with a share for each of the five maps. -/
def clinicRaw : Entries String Value :=
  [("$type", .text "Clinic"), ("$version", .int 2), ("doctor", .text "->Person"),
    ("onClinicCreated", .function .identity), ("everyDay", .function (.library .len)),
    ("0 9 * * 1", .function .identity), ("migrate.02", .function (.library .len)),
    ("size", .function (.library .len))]

/-- The general statement for a mapping and its reverse. -/
theorem sharesOut_of_read_clinic : (Entries.keys clinicRaw).Nodup ∧
    clinicRaw.Perm clinicRaw.reverse ∧
    ∃ d d', (Definition.read clinicRaw).result = .ok d ∧
      (Definition.read clinicRaw.reverse).result = .ok d' ∧
      d.SharesOut clinicRaw ∧ d.SameUpToOrder d' := by
  have hraw : (Entries.keys clinicRaw).Nodup := by decide
  have hperm : clinicRaw.Perm clinicRaw.reverse := (List.reverse_perm _).symm
  obtain ⟨hshares, horder⟩ := Definition.sharesOut_of_read hraw
  obtain ⟨d, hd⟩ : ∃ d, (Definition.read clinicRaw).result = .ok d := ⟨_, rfl⟩
  obtain ⟨hiff, hsame⟩ := horder _ hperm
  obtain ⟨d', hd'⟩ := hiff.mp ⟨d, hd⟩
  exact ⟨hraw, hperm, d, d', hd, hd', hshares d hd, hsame d d' hd hd'⟩

end Entity
