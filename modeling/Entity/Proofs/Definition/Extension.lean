import Entity.Definition.Derivation
import Entity.Proofs.Definition.Routing

/-!
# Extension

The mapping of a child type is that of its parent with the child's own entries on top.  Main
statements: a child holds what its own keys make and, under every other key, what its parent holds;
and extending a child again is extending its parent by both at once, for any number of children.
-/

namespace Entity

/-! ## The mapping of a child -/

namespace Definition

variable {d c : Definition} {part : Entries String Value}

/-- The version in the mapping of a child: its own, or its parent's, or 1. -/
def childVersion (d : Definition) (part : Entries String Value) : Value :=
  Value.firstTruthy (Value.lookup part "$version") [Value.lookup d.raw "$version", .int 1]

theorem isTruthy_childVersion (d : Definition) (part : Entries String Value) :
    (d.childVersion part).isTruthy = true := by
  simp only [childVersion, Value.firstTruthy]
  split_ifs with hown hparent
  · exact hown
  · exact hparent
  · rfl

/-- The entries of a child that are not reserved, in order. -/
theorem unreserved_childRaw (d : Definition) (part : Entries String Value) :
    unreserved (d.childRaw part) = Entries.merge (unreserved d.raw) (unreserved part) := by
  have herase : unreserved (Entries.erase "$id" d.raw) = unreserved d.raw := by
    rw [unreserved, Entries.restrict, Entries.erase, List.filter_filter]
    refine List.filter_congr fun e _ => ?_
    by_cases hid : e.1 = "$id"
    · rw [hid]
      rfl
    · simp [hid]
  have hversion : isReserved "$version" = true := rfl
  have hextends : isReserved "$extends" = true := rfl
  simp only [unreserved] at herase ⊢
  rw [childRaw, Entries.restrict_put, if_neg (by simp [hversion]), Entries.restrict_put,
    if_neg (by simp [hextends]), Entries.restrict_merge, herase]

theorem nodup_keys_childRaw (hd : (Entries.keys d.raw).Nodup) (part : Entries String Value) :
    (Entries.keys (d.childRaw part)).Nodup :=
  Entries.nodup_keys_put (Entries.nodup_keys_put
    (Entries.nodup_keys_merge (Entries.nodup_keys_erase hd _) part) _ _) _ _

theorem get?_version_childRaw (d : Definition) (part : Entries String Value) :
    Entries.get? "$version" (d.childRaw part) = some (d.childVersion part) := by
  rw [childRaw, Entries.get?_put, if_pos rfl]
  rfl

theorem get?_extends_childRaw (d : Definition) (part : Entries String Value) :
    Entries.get? "$extends" (d.childRaw part) = some (.text d.type) := by
  rw [childRaw, Entries.get?_put, if_neg (by decide), Entries.get?_put, if_pos rfl]

/-- A child names its parent by its type. -/
theorem readParent_childRaw (d : Definition) (part : Entries String Value) :
    readParent (Value.lookup (d.childRaw part) "$extends") = (some d.type, none) := by
  rw [Value.lookup_of_get?_eq_some (get?_extends_childRaw d part)]
  rfl

/-- A key other than these two is the child's own or its parent's, and the parent has no identity. -/
theorem get?_childRaw (d : Definition) (hpart : (Entries.keys part).Nodup) {key : String}
    (hversion : key ≠ "$version") (hextends : key ≠ "$extends") :
    Entries.get? key (d.childRaw part) =
      (Entries.get? key part).or (if "$id" = key then none else Entries.get? key d.raw) := by
  rw [childRaw, Entries.get?_put, if_neg hversion.symm, Entries.get?_put, if_neg hextends.symm,
    Entries.get?_merge hpart, Entries.get?_erase]

theorem extend_eq_ok_iff : (d.extend part).result = .ok c ↔
    Entries.get? "$id" part = none ∧ (Definition.read (d.childRaw part)).result = .ok c := by
  rw [extend, Entries.has]
  cases Entries.get? "$id" part <;> simp

theorem raw_of_read {raw : Entries String Value} (h : (Definition.read raw).result = .ok d) :
    d.raw = raw := by
  obtain ⟨r, hr⟩ := exists_readFrom h
  exact hr.origin

theorem nodup_keys_of_extend (hd : (Entries.keys d.raw).Nodup) (hc : (d.extend part).result = .ok c) :
    (Entries.keys c.raw).Nodup := by
  rw [raw_of_read (extend_eq_ok_iff.mp hc).2]
  exact nodup_keys_childRaw hd part

end Definition

/-! ## Mappings that agree -/

/-- Two mappings agree, but for the parent that they name; both parents bring the same context. -/
structure AgreeButParent (raw raw' : Entries String Value) : Prop where
  unreserved : unreserved raw' = unreserved raw
  lookups : ∀ key, key ≠ "$extends" → Entries.get? key raw' = Entries.get? key raw
  inherited : (readParent (Value.lookup raw' "$extends")).2 =
    (readParent (Value.lookup raw "$extends")).2

/-- Two definitions are the same, but for their parent and the mapping that they are read from. -/
structure Definition.SameButParent (d d' : Definition) : Prop where
  type : d'.type = d.type
  version : d'.version = d.version
  context : d'.context = d.context
  id : d'.id = d.id
  seed : d'.seed = d.seed
  enrichments : d'.enrichments = d.enrichments
  fields : d'.fields = d.fields
  cascades : d'.cascades = d.cascades
  events : d'.events = d.events
  schedules : d'.schedules = d.schedules
  crons : d'.crons = d.crons
  migrations : d'.migrations = d.migrations

namespace AgreeButParent

variable {raw raw' : Entries String Value}

theorem lookup (h : AgreeButParent raw raw') {key : String} (hkey : key ≠ "$extends") :
    Value.lookup raw' key = Value.lookup raw key :=
  Value.lookup_congr (h.lookups key hkey)

theorem partsIn (h : AgreeButParent raw raw') : partsIn raw' = partsIn raw := by
  rw [Entity.partsIn, Entity.partsIn, h.unreserved]

/-- Mappings that agree are read to definitions that are the same. -/
theorem exists_read (h : AgreeButParent raw raw') (hraw : (Entries.keys raw).Nodup)
    (hraw' : (Entries.keys raw').Nodup) {d : Definition} (hd : (Definition.read raw).result = .ok d) :
    ∃ d', (Definition.read raw').result = .ok d' ∧ d.SameButParent d' := by
  obtain ⟨hroutable, hfrom⟩ := (Definition.read_eq_ok_iff hraw).mp hd
  have hroutable' : Routable raw' := by
    refine ⟨?_, ?_⟩
    · rw [h.unreserved]
      exact hroutable.parts
    · rw [h.partsIn]
      exact hroutable.targets
  have hrouted : (Routed.addAll d.type d.version {} raw').result =
      .ok (.ofParts (Entity.partsIn raw)) :=
    (Routed.addAll_empty_iff hraw').mpr ⟨hroutable', by rw [h.partsIn]⟩
  have htype : Entries.get? "$type" raw' = some (.text d.type) := by
    rw [h.lookups _ (by decide), hfrom.type]
  have hversion : readVersion d.type (Value.lookup raw' "$version") = .ok d.version := by
    rw [h.lookup (by decide), hfrom.version]
  have henrichments : readEnrichments d.type (Value.lookup raw' "$enrich") = .ok d.enrichments := by
    rw [h.lookup (by decide), hfrom.enrichments]
  have hcontext : readContext (Value.lookup raw' "$context")
      (readParent (Value.lookup raw' "$extends")).2 = .ok d.context := by
    rw [h.lookup (by decide), h.inherited, hfrom.context]
  obtain ⟨d', hfrom', htype, hversion, henrichments, hcontext⟩ :=
    Definition.exists_readFrom_of htype hfrom.named hversion henrichments hcontext hrouted
  have hfields : d'.fields = d.fields := by rw [hfrom'.fields, hfrom.fields]
  refine ⟨d', hfrom'.read, ⟨htype, hversion, hcontext, ?_, ?_, henrichments, hfields, ?_, ?_, ?_,
    ?_, ?_⟩⟩
  · rw [hfrom'.id_eq, hfrom.id_eq, h.lookup (by decide)]
  · rw [hfrom'.seed, hfrom.seed, h.lookup (by decide)]
  · rw [hfrom'.cascades, hfrom.cascades, hfields]
  · rw [hfrom'.events, hfrom.events]
  · rw [hfrom'.schedules, hfrom.schedules]
  · rw [hfrom'.crons, hfrom.crons]
  · rw [hfrom'.migrations, hfrom.migrations]

end AgreeButParent

/-! ## Chains -/

namespace Definition

variable {d d' c c' e : Definition} {a b part : Entries String Value}

/-- Children by the same partial agree if their parents agree. -/
theorem agree_childRaw (h : AgreeButParent d.raw d'.raw) (hpart : (Entries.keys part).Nodup) :
    AgreeButParent (d.childRaw part) (d'.childRaw part) := by
  refine ⟨?_, ?_, ?_⟩
  · rw [unreserved_childRaw, unreserved_childRaw, h.unreserved]
  · intro key hextends
    by_cases hversion : key = "$version"
    · rw [hversion, get?_version_childRaw, get?_version_childRaw, childVersion, childVersion,
        h.lookup (by decide)]
    · rw [get?_childRaw d hpart hversion hextends, get?_childRaw d' hpart hversion hextends,
        h.lookups key hextends]
  · rw [readParent_childRaw, readParent_childRaw]

/-- The version of a child's child, whose own version is not falsy, is that of a child by both. -/
theorem childVersion_childRaw (hraw : c.raw = d.childRaw a) (hb : (Entries.keys b).Nodup)
    (hversion : ∀ v, Entries.get? "$version" b = some v → v.isFalsy = false) :
    c.childVersion b = d.childVersion (Entries.merge a b) := by
  have hparent : Value.lookup c.raw "$version" = d.childVersion a := by
    rw [hraw, Value.lookup_of_get?_eq_some (get?_version_childRaw d a)]
  have hmerged := Entries.get?_merge hb "$version" a
  unfold childVersion
  cases hown : Entries.get? "$version" b with
  | none =>
      rw [hown, Option.none_or] at hmerged
      have hfirst : Value.lookup b "$version" = .null := Value.lookup_of_get?_eq_none hown
      have hsecond : Value.lookup (Entries.merge a b) "$version" = Value.lookup a "$version" :=
        Value.lookup_congr hmerged
      rw [hfirst, hsecond, hparent]
      simp only [Value.firstTruthy]
      rw [if_neg (by decide), if_pos (isTruthy_childVersion d a)]
      rfl
  | some v =>
      rw [hown, Option.some_or] at hmerged
      have htruthy : v.isTruthy = true := by rw [Value.isTruthy, hversion v hown]; rfl
      have hfirst : Value.lookup b "$version" = v := Value.lookup_of_get?_eq_some hown
      have hsecond : Value.lookup (Entries.merge a b) "$version" = v :=
        Value.lookup_of_get?_eq_some hmerged
      rw [hfirst, hsecond]
      simp only [Value.firstTruthy, htruthy, if_true]

/-- **A child's child agrees with a child by both partials at once**, in the order of the entries
too. -/
theorem agree_childRaw_merge (hraw : c.raw = d.childRaw a) (ha : (Entries.keys a).Nodup)
    (hid : Entries.get? "$id" a = none) (hb : (Entries.keys b).Nodup)
    (hversion : ∀ v, Entries.get? "$version" b = some v → v.isFalsy = false) :
    AgreeButParent (c.childRaw b) (d.childRaw (Entries.merge a b)) := by
  have hmerge : (Entries.keys (Entries.merge a b)).Nodup := Entries.nodup_keys_merge ha b
  refine ⟨?_, ?_, ?_⟩
  · have hown : unreserved (Entries.merge a b) = Entries.merge (unreserved a) (unreserved b) :=
      Entries.restrict_merge _ a b
    rw [unreserved_childRaw, unreserved_childRaw, hraw, unreserved_childRaw, hown,
      Entries.merge_merge (nodup_keys_unreserved ha)]
  · intro key hextends
    -- every step computes the version anew; all other keys are merged
    by_cases hkey : key = "$version"
    · rw [hkey, get?_version_childRaw, get?_version_childRaw,
        childVersion_childRaw hraw hb hversion]
    · rw [get?_childRaw c hb hkey hextends, get?_childRaw d hmerge hkey hextends, hraw,
        get?_childRaw d ha hkey hextends, Entries.get?_merge hb, Option.or_assoc]
      -- no partial brings an identity, and every step forgets that of the parent
      by_cases hidentity : "$id" = key
      · rw [← hidentity, hid]
        rfl
      · rw [if_neg hidentity, if_neg hidentity]
  · rw [readParent_childRaw, readParent_childRaw]

/-- Children of definitions whose mappings agree are the same, but for their parent. -/
theorem exists_extend_of_agree (h : AgreeButParent c.raw c'.raw)
    (hc : (Entries.keys c.raw).Nodup) (hc' : (Entries.keys c'.raw).Nodup)
    (hpart : (Entries.keys part).Nodup) (he : (c.extend part).result = .ok e) :
    ∃ e', (c'.extend part).result = .ok e' ∧ AgreeButParent e.raw e'.raw ∧ e.SameButParent e' := by
  obtain ⟨hid, hread⟩ := extend_eq_ok_iff.mp he
  have hagree := agree_childRaw h hpart
  obtain ⟨e', he', hsame⟩ := hagree.exists_read (nodup_keys_childRaw hc part)
    (nodup_keys_childRaw hc' part) hread
  refine ⟨e', extend_eq_ok_iff.mpr ⟨hid, he'⟩, ?_, hsame⟩
  rw [raw_of_read hread, raw_of_read he']
  exact hagree

/-- Extending a child is extending its parent by both partials at once. -/
theorem exists_extend_merge (hd : (Entries.keys d.raw).Nodup) (ha : (Entries.keys a).Nodup)
    (hc : (d.extend a).result = .ok c) (hb : (Entries.keys b).Nodup)
    (hversion : ∀ v, Entries.get? "$version" b = some v → v.isFalsy = false)
    (he : (c.extend b).result = .ok e) :
    ∃ e', (d.extend (Entries.merge a b)).result = .ok e' ∧ AgreeButParent e.raw e'.raw ∧
      e.SameButParent e' := by
  obtain ⟨hida, hreadc⟩ := extend_eq_ok_iff.mp hc
  obtain ⟨hidb, hreade⟩ := extend_eq_ok_iff.mp he
  have hraw : c.raw = d.childRaw a := raw_of_read hreadc
  have hcraw : (Entries.keys c.raw).Nodup := nodup_keys_of_extend hd hc
  have hagree := agree_childRaw_merge hraw ha hida hb hversion
  obtain ⟨e', he', hsame⟩ := hagree.exists_read (nodup_keys_childRaw hcraw b)
    (nodup_keys_childRaw hd _) hreade
  have hid : Entries.get? "$id" (Entries.merge a b) = none := by
    rw [Entries.get?_merge hb, hida, hidb]
    rfl
  refine ⟨e', extend_eq_ok_iff.mpr ⟨hid, he'⟩, ?_, hsame⟩
  rw [raw_of_read hreade, raw_of_read he']
  exact hagree

/-! ### Any number of children -/

/-- Extend again and again. -/
def extendAll (d : Definition) : List (Entries String Value) → Outcome Definition
  | [] => return d
  | part :: parts => do (← d.extend part).extendAll parts

theorem SameButParent.refl (d : Definition) : d.SameButParent d :=
  ⟨rfl, rfl, rfl, rfl, rfl, rfl, rfl, rfl, rfl, rfl, rfl, rfl⟩

theorem SameButParent.trans (h : c.SameButParent d) (h' : d.SameButParent e) :
    c.SameButParent e :=
  ⟨h'.type.trans h.type, h'.version.trans h.version, h'.context.trans h.context, h'.id.trans h.id,
    h'.seed.trans h.seed, h'.enrichments.trans h.enrichments, h'.fields.trans h.fields,
    h'.cascades.trans h.cascades, h'.events.trans h.events, h'.schedules.trans h.schedules,
    h'.crons.trans h.crons, h'.migrations.trans h.migrations⟩

/-- Chains from definitions whose mappings agree end the same, by induction on the chain. -/
theorem exists_extendAll_of_agree {parts : List (Entries String Value)}
    (hparts : ∀ part ∈ parts, (Entries.keys part).Nodup) (h : AgreeButParent c.raw c'.raw)
    (hsame : c.SameButParent c') (hc : (Entries.keys c.raw).Nodup)
    (hc' : (Entries.keys c'.raw).Nodup) (he : (c.extendAll parts).result = .ok e) :
    ∃ e', (c'.extendAll parts).result = .ok e' ∧ e.SameButParent e' := by
  induction parts generalizing c c' with
  | nil =>
      cases he
      exact ⟨c', rfl, hsame⟩
  | cons part parts ih =>
      obtain ⟨hpart, hparts⟩ := List.forall_mem_cons.mp hparts
      rw [extendAll, Outcome.result_bind, bind_eq_ok] at he
      obtain ⟨c₁, hstep, he⟩ := he
      obtain ⟨c₁', hstep', hagree, hsame₁⟩ := exists_extend_of_agree h hc hc' hpart hstep
      obtain ⟨e', he', hend⟩ := ih hparts hagree hsame₁ (nodup_keys_of_extend hc hstep)
        (nodup_keys_of_extend hc' hstep') he
      refine ⟨e', ?_, hend⟩
      rw [extendAll, Outcome.result_bind, bind_eq_ok]
      exact ⟨c₁', hstep', he'⟩

/-- **A chain of children is one child by all partials at once**, by induction on the chain: its
first two steps are one. -/
theorem exists_extend_foldl_merge (hd : (Entries.keys d.raw).Nodup) (ha : (Entries.keys a).Nodup)
    (hc : (d.extend a).result = .ok c) {parts : List (Entries String Value)}
    (hparts : ∀ b ∈ parts, (Entries.keys b).Nodup ∧
      ∀ v, Entries.get? "$version" b = some v → v.isFalsy = false)
    (he : (c.extendAll parts).result = .ok e) :
    ∃ e', (d.extend (parts.foldl Entries.merge a)).result = .ok e' ∧ e.SameButParent e' := by
  induction parts generalizing a c e with
  | nil =>
      cases he
      exact ⟨c, hc, .refl c⟩
  | cons b parts ih =>
      obtain ⟨⟨hb, hversion⟩, hparts⟩ := List.forall_mem_cons.mp hparts
      rw [extendAll, Outcome.result_bind, bind_eq_ok] at he
      obtain ⟨c₁, hstep, he⟩ := he
      have hcraw : (Entries.keys c.raw).Nodup := nodup_keys_of_extend hd hc
      obtain ⟨c₁', hboth, hagree, hsame⟩ := exists_extend_merge hd ha hc hb hversion hstep
      have hnodup : ∀ part ∈ parts, (Entries.keys part).Nodup := fun part hpart =>
        (hparts part hpart).1
      obtain ⟨e', he', hend⟩ := exists_extendAll_of_agree hnodup hagree hsame
        (nodup_keys_of_extend hcraw hstep) (nodup_keys_of_extend hd hboth) he
      obtain ⟨e'', he'', hend'⟩ := ih (Entries.nodup_keys_merge ha b) hboth hparts he'
      exact ⟨e'', he'', hend.trans hend'⟩

end Definition

/-! ## What a child holds -/

/-- What a definition makes of a key. -/
def Definition.part? (d : Definition) (key : String) : Option Part :=
  Entries.get? key (partsIn d.raw)

/-- The mapping of a definition with nothing but a type and the entries that are not reserved. -/
def alone (type : String) (part : Entries String Value) : Entries String Value :=
  ("$type", .text type) :: unreserved part

section Alone

variable {type : String} {part : Entries String Value}

theorem isReserved_type : isReserved "$type" = true := rfl

theorem unreserved_alone : unreserved (alone type part) = unreserved part := by
  rw [alone, unreserved_cons, if_pos isReserved_type]
  simp [unreserved, Entries.restrict]

theorem nodup_keys_alone (hpart : (Entries.keys part).Nodup) :
    (Entries.keys (alone type part)).Nodup := by
  refine List.nodup_cons.mpr ⟨?_, nodup_keys_unreserved hpart⟩
  intro hmem
  obtain ⟨e, he, hkey⟩ := List.mem_map.mp hmem
  have hreserved : isReserved e.1 = true := by rw [hkey, isReserved_type]
  rw [(mem_unreserved.mp he).2] at hreserved
  cases hreserved

theorem lookup_alone {key : String} (hkey : isReserved key = true) (htype : key ≠ "$type") :
    Value.lookup (alone type part) key = .null := by
  have hget : Entries.get? key (unreserved part) = none := by
    rw [unreserved, Entries.get?_restrict]
    simp [hkey]
  apply Value.lookup_of_get?_eq_none
  rw [alone, Entries.get?_cons, if_neg htype.symm, hget]

/-- Entries that can be routed can be read alone. -/
theorem exists_read_alone (htype : type ≠ "") (hpart : (Entries.keys part).Nodup)
    (hroutable : Routable part) : ∃ d, (Definition.read (alone type part)).result = .ok d := by
  have hraw : (Entries.keys (alone type part)).Nodup := nodup_keys_alone hpart
  have hroutable' : Routable (alone type part) := by
    refine hroutable.of_subset hraw ?_
    rw [unreserved_alone]
    exact List.Subset.refl _
  have hrouted : (Routed.addAll type 1 {} (alone type part)).result = .ok _ :=
    (Routed.addAll_empty_iff hraw).mpr ⟨hroutable', rfl⟩
  have hversion : readVersion type (Value.lookup (alone type part) "$version") = .ok 1 := by
    rw [lookup_alone rfl (by decide)]
    rfl
  have henrichments : readEnrichments type (Value.lookup (alone type part) "$enrich") = .ok [] := by
    rw [lookup_alone rfl (by decide)]
    rfl
  have hcontext : readContext (Value.lookup (alone type part) "$context")
      (readParent (Value.lookup (alone type part) "$extends")).2 = .ok none := by
    rw [lookup_alone rfl (by decide), lookup_alone rfl (by decide)]
    rfl
  obtain ⟨d, hfrom, -⟩ :=
    Definition.exists_readFrom_of rfl htype hversion henrichments hcontext hrouted
  exact ⟨d, hfrom.read⟩

end Alone

/-- A child has what its own keys make when they are read alone, and what its parent has under all
other keys, and nothing else; it names its parent and has no identity. -/
structure Definition.Overrides (d : Definition) (part : Entries String Value) (c : Definition) :
    Prop where
  /-- The maps of the parent hold what it makes of its keys. -/
  ofParent : d.SharesOut d.raw
  /-- The maps of the child hold what it makes of its keys. -/
  ofChild : c.SharesOut c.raw
  own : ∀ type, type ≠ "" → ∃ e, (Definition.read (alone type part)).result = .ok e ∧
    e.SharesOut e.raw ∧ ∀ key ∈ Entries.keys (unreserved part),
      (e.part? key).isSome = true ∧ c.part? key = e.part? key
  inherited : ∀ key, key ∉ Entries.keys part → c.part? key = d.part? key
  parent : c.parent = some d.type
  id : c.id = none

namespace Definition

variable {d c e : Definition} {a part : Entries String Value}

theorem sharesOut_raw {raw : Entries String Value} (hraw : (Entries.keys raw).Nodup)
    (h : (Definition.read raw).result = .ok d) : d.SharesOut d.raw := by
  obtain ⟨hroutable, hfrom⟩ := (read_eq_ok_iff hraw).mp h
  rw [hfrom.origin]
  exact hfrom.sharesOut hraw hroutable

/-- What is made of a key is made of the value that is found under it. -/
theorem get?_partsIn {raw : Entries String Value} (hraw : (Entries.keys raw).Nodup) (key : String) :
    Entries.get? key (partsIn raw) = (Entries.get? key (unreserved raw)).bind (Part.of? key) :=
  Entries.get?_pick (nodup_keys_unreserved hraw) key

/-- What a child makes of a key is made of its own value, or of its parent's. -/
theorem part?_of_extend (hd : (Entries.keys d.raw).Nodup) (ha : (Entries.keys a).Nodup)
    (hc : (d.extend a).result = .ok c) (key : String) :
    c.part? key = ((Entries.get? key (unreserved a)).or (Entries.get? key (unreserved d.raw))).bind
      (Part.of? key) := by
  rw [part?, get?_partsIn (nodup_keys_of_extend hd hc), raw_of_read (extend_eq_ok_iff.mp hc).2,
    unreserved_childRaw, Entries.get?_merge (nodup_keys_unreserved ha)]

/-- The entries of a child can be routed without those of its parent. -/
theorem routable_of_extend (hd : (Entries.keys d.raw).Nodup) (ha : (Entries.keys a).Nodup)
    (hc : (d.extend a).result = .ok c) : Routable a := by
  have hchild : (Entries.keys (d.childRaw a)).Nodup := nodup_keys_childRaw hd a
  obtain ⟨hroutable, -⟩ := (read_eq_ok_iff hchild).mp (extend_eq_ok_iff.mp hc).2
  refine hroutable.of_subset ha ?_
  intro e he
  rw [unreserved_childRaw]
  exact Entries.mem_merge (nodup_keys_unreserved ha) _ he

theorem overrides_of_extend (hread : (Definition.read d.raw).result = .ok d)
    (hd : (Entries.keys d.raw).Nodup) (ha : (Entries.keys a).Nodup)
    (hc : (d.extend a).result = .ok c) : d.Overrides a c := by
  obtain ⟨hid, hreadc⟩ := extend_eq_ok_iff.mp hc
  have hchild : (Entries.keys (d.childRaw a)).Nodup := nodup_keys_childRaw hd a
  obtain ⟨-, hfrom⟩ := (read_eq_ok_iff hchild).mp hreadc
  have hroutable : Routable a := routable_of_extend hd ha hc
  refine ⟨sharesOut_raw hd hread, sharesOut_raw hchild hreadc, ?_, ?_, ?_, ?_⟩
  · intro type htype
    obtain ⟨e, he⟩ := exists_read_alone htype ha hroutable
    refine ⟨e, he, sharesOut_raw (nodup_keys_alone ha) he, ?_⟩
    intro key hkey
    have hpart : e.part? key = (Entries.get? key (unreserved a)).bind (Part.of? key) := by
      rw [part?, raw_of_read he, get?_partsIn (nodup_keys_alone ha), unreserved_alone]
    obtain ⟨v, hv⟩ := Option.isSome_iff_exists.mp (Entries.mem_keys_iff.mp hkey)
    have hmakes := hroutable.parts (key, v) (Entries.mem_of_get?_eq_some hv)
    refine ⟨?_, ?_⟩
    · rw [hpart, hv]
      exact hmakes
    · rw [hpart, part?_of_extend hd ha hc, hv]
      rfl
  · intro key hkey
    have hnone : Entries.get? key (unreserved a) = none := by
      rw [Entries.get?_eq_none_iff]
      intro hmem
      obtain ⟨e, he, rfl⟩ := List.mem_map.mp hmem
      exact hkey (List.mem_map.mpr ⟨e, (mem_unreserved.mp he).1, rfl⟩)
    rw [part?_of_extend hd ha hc, hnone, Option.none_or, part?, get?_partsIn hd]
  · rw [hfrom.parent, readParent_childRaw]
  · have hnone : Entries.get? "$id" (d.childRaw a) = none := by
      rw [get?_childRaw d ha (by decide) (by decide), hid]
      rfl
    rw [hfrom.id_eq, Value.lookup_of_get?_eq_none hnone]
    rfl

/-- **A child overrides its parent key by key, and a child's child is a child by both partials at
once**, in the order of all entries too. -/
theorem extend_composes (hread : (Definition.read d.raw).result = .ok d)
    (hd : (Entries.keys d.raw).Nodup) (ha : (Entries.keys a).Nodup)
    (hc : (d.extend a).result = .ok c) :
    d.Overrides a c ∧ ∀ b e, (Entries.keys b).Nodup →
      (∀ v, Entries.get? "$version" b = some v → v.isFalsy = false) →
      (c.extend b).result = .ok e →
      ∃ e', (d.extend (Entries.merge a b)).result = .ok e' ∧ e.SameButParent e' := by
  refine ⟨overrides_of_extend hread hd ha hc, ?_⟩
  intro b e hb hversion he
  obtain ⟨e', he', -, hsame⟩ := exists_extend_merge hd ha hc hb hversion he
  exact ⟨e', he', hsame⟩

end Definition

namespace Agency

/-- A definition with an identity, a version and a handler. -/
def raw : Entries String Value :=
  [("$type", .text "Agency"), ("$id", .text "main"), ("$version", .int 2),
    ("migrate.2", .function .identity), ("size", .function (.library .len))]

/-- A child that turns a computed field into a link and adds a handler. -/
def studio : Entries String Value :=
  [("$type", .text "Studio"), ("size", .text "->Size"), ("onStudioCreated", .function .identity)]

/-- A child of the child, with a version of its own. -/
def atelier : Entries String Value :=
  [("$version", .int 3), ("migrate.3", .function (.library .len))]

end Agency

/-- The general statement for a definition with an identity, its child and a child of this. -/
theorem extend_composes_agency : ∃ d c e : Definition,
    ((Definition.read d.raw).result = .ok d ∧ (Entries.keys d.raw).Nodup ∧
      (Entries.keys Agency.studio).Nodup ∧ (d.extend Agency.studio).result = .ok c ∧
      (Entries.keys Agency.atelier).Nodup ∧
      (∀ v, Entries.get? "$version" Agency.atelier = some v → v.isFalsy = false) ∧
      (c.extend Agency.atelier).result = .ok e) ∧
    d.id = some "main" ∧ d.Overrides Agency.studio c ∧
    ∃ e', (d.extend (Entries.merge Agency.studio Agency.atelier)).result = .ok e' ∧
      e.SameButParent e' := by
  obtain ⟨d, c, e, hread, hid, hc, he⟩ : ∃ d c e : Definition,
      (Definition.read Agency.raw).result = .ok d ∧ d.id = some "main" ∧
      (d.extend Agency.studio).result = .ok c ∧ (c.extend Agency.atelier).result = .ok e :=
    ⟨_, _, _, rfl, rfl, rfl, rfl⟩
  have hraw : d.raw = Agency.raw := Definition.raw_of_read hread
  rw [← hraw] at hread
  have hd : (Entries.keys d.raw).Nodup := by
    rw [hraw]
    decide
  have hstudio : (Entries.keys Agency.studio).Nodup := by decide
  have hatelier : (Entries.keys Agency.atelier).Nodup := by decide
  have hversion : ∀ v, Entries.get? "$version" Agency.atelier = some v → v.isFalsy = false := by
    rintro v ⟨⟩
    rfl
  obtain ⟨hoverrides, hmerge⟩ := Definition.extend_composes hread hd hstudio hc
  exact ⟨d, c, e, ⟨hread, hd, hstudio, hc, hatelier, hversion, he⟩, hid, hoverrides,
    hmerge _ e hatelier hversion he⟩

end Entity
