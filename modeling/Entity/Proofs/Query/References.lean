import Entity.Proofs.Query.History
import Entity.Proofs.Query.Identities
import Mathlib.Tactic.Common

/-!
# Following references and filtering by them

A field of an instance refers to others: by an identity, by an instance, by a mapping with `$id`, or
by a list of these.  There are two ways to read it.  Following goes forward, from the instance to
those that it refers to; filtering goes back, from one of those to the instances that refer to it.
The first resolves what the field writes against the base of the graph, the second compares it as it
is written.  Main statement: the two are inverse to each other exactly where a field that leads to
an instance also writes the absolute identity out.
-/

namespace Entity

/-! ## What a field writes -/

namespace Value

/-- The references in a value: the items of a list, or the one value. -/
def references (v : Value) : List Value := v.items?.getD [v]

/-- The value is a single one, or a list of single ones. -/
def IsFlat (v : Value) : Prop := ∀ r ∈ v.references, r.items? = none

/-- A reference in the value writes the identity out. -/
def Names (v : Value) (id : String) : Prop := ∃ r ∈ v.references, referenceOf r = .text id

/-- A reference in the value stands for the absolute identity, on a base. -/
def LeadsTo (v : Value) (base key : String) : Prop :=
  ∃ id, v.Names id ∧ resolveIdentity base id = key

theorem Names.leadsTo {v : Value} {base key : String} (h : v.Names key)
    (hkey : resolveIdentity base key = key) : v.LeadsTo base key :=
  ⟨key, h, hkey⟩

/-- A value that writes absolute identities only leads to what it writes. -/
theorem LeadsTo.names {v : Value} {base key : String} (h : v.LeadsTo base key)
    (habsolute : ∀ id, v.Names id → isAbsolute id = true) : v.Names key := by
  obtain ⟨id, hid, hkey⟩ := h
  rw [resolveIdentity_of_isAbsolute base (habsolute id hid)] at hkey
  rw [← hkey]
  exact hid

end Value

/-! ## Matching an instance -/

/-- Only the same text is equal to a text. -/
theorem Value.equals_text_iff (v : Value) (t : String) :
    v.equals (.text t) = true ↔ v = .text t := by
  cases v <;> simp [equals, same, sameNumber, number?]

/-- What is equal to an instance has its identity. -/
theorem Value.referenceOf_of_equals {v : Value} {i : Instance} (h : v.equals i.toValue = true) :
    referenceOf v = .text i.id := by
  cases v with
  | entity id type version data context =>
      simp only [Instance.toValue, equals, same, Bool.and_eq_true, beq_iff_eq] at h
      rw [referenceOf, h.1.1.1.1.1]
  | _ => simp [Instance.toValue, equals, same, sameNumber, number?] at h

/-- A value refers to an instance if it writes its identity. -/
theorem refersToSame_iff (v : Value) (i : Instance) :
    refersToSame v i.toValue = true ↔ referenceOf v = .text i.id := by
  have hself : referenceOf i.toValue = .text i.id := rfl
  rw [refersToSame, Bool.or_eq_true, hself, Value.equals_text_iff]
  constructor
  · rintro (h | h)
    · exact Value.referenceOf_of_equals h
    · exact h
  · exact Or.inr

theorem valueMatches_of_single {v : Value} (h : v.items? = none) (i : Instance) :
    valueMatches v i.toValue = true ↔ referenceOf v = .text i.id := by
  rw [← refersToSame_iff]
  cases v with
  | list items => cases h
  | tuple items => cases h
  | _ => rfl

theorem anyMatches_iff {items : List Value} (h : ∀ r ∈ items, r.items? = none) (i : Instance) :
    anyMatches items i.toValue = true ↔ ∃ r ∈ items, referenceOf r = .text i.id := by
  induction items with
  | nil => simp [anyMatches]
  | cons v items ih =>
      rw [List.forall_mem_cons] at h
      rw [anyMatches, Bool.or_eq_true, valueMatches_of_single h.1, ih h.2, List.exists_mem_cons_iff]

/-- A flat value matches an instance if it writes its identity. -/
theorem valueMatches_iff {v : Value} (h : v.IsFlat) (i : Instance) :
    valueMatches v i.toValue = true ↔ v.Names i.id := by
  cases v with
  | list items => exact anyMatches_iff h i
  | tuple items => exact anyMatches_iff h i
  | _ => rw [valueMatches_of_single rfl, Value.Names]; simp [Value.references, Value.items?]

/-! ## Filtering -/

/-- A run of items alone is filtered like a list. -/
theorem allItems_onItems_filter (p : Value → Bool) (vs : List Value) :
    allItems (onItems (fun v => if p v then [.item v] else []) (vs.map .item)) =
      ([], .ok (vs.filter p)) := by
  rw [← allItems_map_item]
  congr 1
  induction vs with
  | nil => rfl
  | cons v vs ih =>
      rw [List.map_cons, onItems, ih, List.filter_cons]
      split <;> rfl

/-- The instances of a type that meet criteria, in a session. -/
theorem Session.toList_filter (s : Session) (type : String) (criteria : Entries String Value) :
    (Collection.filter (.map criteria) (.instancesOf type)).toList s.sources =
      ([], .ok (((s.sources.graph.ofType type).filter
        fun i => meets i.toValue criteria).map Instance.toValue)) := by
  have hrun : Collection.run s.sources (.instancesOf type) =
      ((s.sources.graph.ofType type).map Instance.toValue).map .item := by
    rw [Collection.run, List.map_map]
    rfl
  rw [Collection.filter, Collection.toList, Collection.run, hrun, allItems_onItems_filter,
    List.filter_map]
  rfl

/-! ## Following -/

namespace Graph

variable {g : Graph} {es : List Edit}

/-- What references lead to is what stands under the identities that they write. -/
theorem mem_followed_iff (g : Graph) (v : Value) (y : Instance) :
    y ∈ g.followed v.references ↔ ∃ id, v.Names id ∧ g.find? id = some y := by
  rw [followed, List.mem_filterMap]
  constructor
  · rintro ⟨r, hr, hy⟩
    obtain ⟨id, hid, hy⟩ := Option.bind_eq_some_iff.mp hy
    refine ⟨id, ⟨r, hr, ?_⟩, hy⟩
    cases hv : referenceOf r <;> rw [hv] at hid <;> cases hid
    rfl
  · rintro ⟨id, ⟨r, hr, hid⟩, hy⟩
    refine ⟨r, hr, ?_⟩
    rw [hid]
    exact hy

/-- An instance stands under just the identities that resolve to its own. -/
theorem Reflects.find?_eq_some_iff_of_mem (h : g.Reflects es) {y : Instance}
    (hy : y ∈ g.instances) (id : String) :
    g.find? id = some y ↔ resolveIdentity g.base id = y.id := by
  have hlive := (h.mem_instances_iff y).mp hy
  constructor
  · intro hfound
    exact (h.keyed _ _ hfound).symm
  · intro hid
    rw [h.find?_eq_some_iff, hid]
    exact hlive

theorem Reflects.mem_followed_iff_of_mem (h : g.Reflects es) {y : Instance} (hy : y ∈ g.instances)
    (v : Value) : y ∈ g.followed v.references ↔ v.LeadsTo g.base y.id := by
  rw [mem_followed_iff]
  exact exists_congr fun id => and_congr_right fun _ => h.find?_eq_some_iff_of_mem hy id

/-- On an absolute base the identities of instances are absolute. -/
theorem Reflects.resolve_id (h : g.Reflects es) (hbase : isAbsolute g.base = true) {y : Instance}
    (hy : y ∈ g.instances) : resolveIdentity g.base y.id = y.id := by
  obtain ⟨before, e, after, -, ⟨v, i, -, -, hkey, -⟩, -⟩ := (h.mem_instances_iff y).mp hy
  rw [← hkey, resolveIdentity_twice_iff]
  exact Or.inr (Or.inl hbase)

end Graph

/-! ## Forward and back -/

namespace Session

/-- Following a field of an instance lists these instances. -/
def Follows (s : Session) (x : Instance) (field : String) (ys : List Instance) : Prop :=
  ∃ c, Query.run (Query.follow x.toValue field) s = ([], .ok c, s) ∧
    c.toList s.sources = ([], .ok (ys.map Instance.toValue))

/-- Filtering a type by what a field refers to lists these instances. -/
def Finds (s : Session) (type field : String) (y : Instance) (xs : List Instance) : Prop :=
  (Collection.filter (.map [(field, y.toValue)]) (.instancesOf type)).toList s.sources =
    ([], .ok (xs.map Instance.toValue))

theorem follows (s : Session) (x : Instance) (field : String) :
    s.Follows x field (s.sources.graph.followed (x.value field).references) := by
  refine ⟨.followed (Graph.referencesIn x field), rfl, ?_⟩
  rw [Collection.toList, Collection.run, Graph.referencesIn, ← Value.references,
    allItems_map_toValue]

theorem finds (s : Session) (type field : String) (y : Instance) :
    s.Finds type field y ((s.sources.graph.ofType type).filter
      fun i => valueMatches (fieldOf i.toValue field) y.toValue) := by
  have hmeets : ∀ i : Instance, meets i.toValue [(field, y.toValue)] =
      valueMatches (fieldOf i.toValue field) y.toValue := by
    intro i
    rw [meets, List.all_cons, List.all_nil, Bool.and_true]
  rw [Finds, s.toList_filter]
  simp only [hmeets]

end Session

/-- What a filter reads in a field of an instance is flat if the value of the field is. -/
theorem isFlat_fieldOf {x : Instance} {field : String} (h : (x.value field).IsFlat) :
    (fieldOf x.toValue field).IsFlat := by
  have htext : ∀ t : String, (Value.text t).IsFlat := by
    intro t r hr
    rw [List.mem_singleton.mp hr]
    rfl
  rw [Instance.toValue, fieldOf]
  split
  · exact htext x.id
  · split
    · exact htext x.type
    · exact h

theorem fieldOf_of_ne {field : String} (hid : field ≠ "$id") (htype : field ≠ "$type")
    (x : Instance) : fieldOf x.toValue field = x.value field := by
  rw [Instance.toValue, fieldOf, if_neg hid, if_neg htype]
  rfl

/-- **Forward and back.**  In a session on an absolute base, after whatever edits, following a field
that holds references reaches an instance if the field leads to it, and filtering by the instance
finds what writes its identity out.  So the two agree exactly where a field that leads to the
instance also writes its identity out; for `$id` and `$type` a filter reads the identity and the
type instead of the data. -/
theorem follow_filter_inverse_iff {base : String} (hbase : isAbsolute base = true)
    {vs : List Value} {s : Session} (hs : ({ base } : Graph).addAll vs = .ok s.sources.graph)
    (es : List Edit) {x y : Instance} (hx : x ∈ (s.after es).sources.graph.instances)
    (hy : y ∈ (s.after es).sources.graph.instances) {field : String}
    (hflat : (x.value field).IsFlat) :
    ∃ ys xs, (s.after es).Follows x field ys ∧ (s.after es).Finds x.type field y xs ∧
      (y ∈ ys ↔ (x.value field).LeadsTo base y.id) ∧
      (x ∈ xs ↔ (fieldOf x.toValue field).Names y.id) ∧
      (field ≠ "$id" → field ≠ "$type" → ((y ∈ ys ↔ x ∈ xs) ↔
        ((x.value field).LeadsTo base y.id → (x.value field).Names y.id))) := by
  obtain ⟨hon, hreflects⟩ := Session.reflects_after hs es
  refine ⟨_, _, (s.after es).follows x field, (s.after es).finds x.type field y, ?_⟩
  generalize (s.after es).sources.graph = g at hx hy hon hreflects
  subst hon
  have hforward := hreflects.mem_followed_iff_of_mem hy (x.value field)
  have hback : x ∈ (g.ofType x.type).filter
        (fun i => valueMatches (fieldOf i.toValue field) y.toValue) ↔
      (fieldOf x.toValue field).Names y.id := by
    rw [List.mem_filter, valueMatches_iff (isFlat_fieldOf hflat), Graph.ofType, List.mem_filter]
    exact and_iff_right ⟨hx, beq_self_eq_true _⟩
  refine ⟨hforward, hback, ?_⟩
  intro hid htype
  rw [hforward, hback, fieldOf_of_ne hid htype]
  -- an absolute identity that is written out stands for itself: one direction always holds
  have hself := hreflects.resolve_id hbase hy
  constructor
  · exact Iff.mp
  · intro hspelled
    exact ⟨hspelled, fun hnames => hnames.leadsTo hself⟩

/-! ### Absolute and relative references -/

namespace Startups

/-- A startup, as a graph on the base holds it. -/
def listed : Instance :=
  ⟨"https://startups.do/acme", "Startup", 1, [], some "https://startups.do"⟩

/-- A customer who refers to the startup by a relative identity in one field, and by an absolute one
in another, beside a reference that leads nowhere. -/
def backer : Instance :=
  ⟨"https://startups.do/jane", "Customer", 1,
    [("startup", .text "acme"),
      ("backs", .list [.map [("$id", .text "https://startups.do/acme")], .text "rocket"])],
    some "https://startups.do"⟩

/-- A session with the startup. -/
def listing : Session :=
  ⟨⟨⟨"https://startups.do", [("https://startups.do/acme", listed)]⟩, []⟩, []⟩

/-- The session after the customer was registered in it. -/
def backed : Session := listing.after [.register backer.toValue]

theorem instances_backed : backed.sources.graph.instances = [listed, backer] := rfl

end Startups

/-- The general statement for a list with an absolute identity: the startup is reached, and the
customer is found. -/
theorem follow_filter_inverse_backs :
    isAbsolute "https://startups.do" = true ∧
      ({ base := "https://startups.do" } : Graph).addAll [Startups.listed.toValue] =
        .ok Startups.listing.sources.graph ∧
      Startups.backer ∈ Startups.backed.sources.graph.instances ∧
      Startups.listed ∈ Startups.backed.sources.graph.instances ∧
      (Startups.backer.value "backs").IsFlat ∧
      ∃ ys xs, Startups.backed.Follows Startups.backer "backs" ys ∧
        Startups.backed.Finds "Customer" "backs" Startups.listed xs ∧
        Startups.listed ∈ ys ∧ Startups.backer ∈ xs := by
  have hbase : isAbsolute "https://startups.do" = true := by decide
  have hmade : ({ base := "https://startups.do" } : Graph).addAll [Startups.listed.toValue] =
      .ok Startups.listing.sources.graph := rfl
  have hbacker : Startups.backer ∈ Startups.backed.sources.graph.instances := by
    simp [Startups.instances_backed]
  have hlisted : Startups.listed ∈ Startups.backed.sources.graph.instances := by
    simp [Startups.instances_backed]
  have hflat : (Startups.backer.value "backs").IsFlat := by
    intro r hr
    rcases List.mem_pair.mp hr with rfl | rfl <;> rfl
  have hnames : (Startups.backer.value "backs").Names Startups.listed.id :=
    ⟨.map [("$id", .text "https://startups.do/acme")], List.mem_cons_self, rfl⟩
  obtain ⟨ys, xs, hfollows, hfinds, hforward, hback, -⟩ :=
    follow_filter_inverse_iff hbase hmade [.register Startups.backer.toValue] hbacker hlisted hflat
  exact ⟨hbase, hmade, hbacker, hlisted, hflat, ys, xs, hfollows, hfinds,
    hforward.mpr (hnames.leadsTo rfl), hback.mpr hnames⟩

/-- A relative identity is followed to the startup, but the filter does not find the customer. -/
theorem follow_filter_apart_startup :
    Startups.backer ∈ Startups.backed.sources.graph.instances ∧
      Startups.listed ∈ Startups.backed.sources.graph.instances ∧
      Startups.backer.value "startup" = .text "acme" ∧
      ∃ ys xs, Startups.backed.Follows Startups.backer "startup" ys ∧
        Startups.backed.Finds "Customer" "startup" Startups.listed xs ∧
        Startups.listed ∈ ys ∧ Startups.backer ∉ xs := by
  have hvalue : fieldOf Startups.backer.toValue "startup" = .text "acme" := rfl
  have hcustomers : Startups.backed.sources.graph.ofType "Customer" = [Startups.backer] := rfl
  have hmissed : ¬ valueMatches (.text "acme") Startups.listed.toValue = true := by
    rw [valueMatches_of_single rfl]
    simp [referenceOf, Startups.listed]
  have hfinds := Startups.backed.finds "Customer" "startup" Startups.listed
  rw [hcustomers, List.filter_cons, hvalue, if_neg hmissed, List.filter_nil] at hfinds
  rw [Startups.instances_backed]
  exact ⟨by simp, by simp, hvalue, [Startups.listed], [], ⟨_, rfl, rfl⟩, hfinds,
    List.mem_cons_self, List.not_mem_nil⟩

end Entity
