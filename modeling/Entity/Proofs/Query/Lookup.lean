import Entity.Proofs.Query.History
import Entity.Proofs.Text.Ends
import Mathlib.Data.List.DropRight
import Mathlib.Tactic.Common

/-!
# Looking instances up under a type

A key is looked up under a type: as an identity, as the short name of an instance, or as the end of
an identity.  Main statements: an instance of the type is found whenever one goes by the key in one
of these ways, the one with the identity before all others and else the one that came first; without
one the answer is that of the identity alone; and an instance of another type that is registered
later, under an identity of its own, does not change what is found.
-/

namespace Entity

open Entity.Text

/-! ## Keys without slashes at their ends -/

/-- The second text is the first one without the slashes at its ends. -/
structure StripsTo (cs bare : List Char) : Prop where
  split : ∃ m n, cs = List.replicate m '/' ++ bare ++ List.replicate n '/'
  head : bare.head? ≠ some '/'
  last : bare.getLast? ≠ some '/'

theorem dropWhile_slash_replicate (m : Nat) (cs : List Char) :
    (List.replicate m '/' ++ cs).dropWhile (· == '/') = cs.dropWhile (· == '/') := by
  induction m with
  | zero => rfl
  | succ m ih => rw [List.replicate_succ, List.cons_append, List.dropWhile_cons_of_pos rfl, ih]

theorem rdropWhile_slash_replicate (cs : List Char) (n : Nat) :
    (cs ++ List.replicate n '/').rdropWhile (· == '/') = cs.rdropWhile (· == '/') := by
  rw [List.rdropWhile, List.reverse_append, List.reverse_replicate, dropWhile_slash_replicate]
  rfl

theorem stripsTo_iff (key : String) (bare : List Char) :
    StripsTo key.toList bare ↔ Graph.bareKey key = bare := by
  rw [Graph.bareKey, dropEndWhile_eq_rdropWhile]
  generalize key.toList = cs
  constructor
  · rintro ⟨⟨m, n, rfl⟩, hhead, hlast⟩
    rw [List.append_assoc, dropWhile_slash_replicate]
    cases bare with
    | nil =>
        have hnil := dropWhile_slash_replicate n []
        rw [List.append_nil] at hnil
        rw [List.nil_append, hnil]
        rfl
    | cons c bare =>
        have hc : ¬ (c == '/') = true := by simpa using hhead
        rw [List.cons_append, List.dropWhile_cons_of_neg (p := (· == '/')) hc, ← List.cons_append,
          rdropWhile_slash_replicate, List.rdropWhile_eq_self_iff]
        intro hne hslash
        rw [List.getLast?_eq_some_getLast hne, eq_of_beq hslash] at hlast
        exact hlast rfl
  · rintro rfl
    have hfront : cs.takeWhile (· == '/') ++ cs.dropWhile (· == '/') = cs :=
      List.takeWhile_append_dropWhile
    have hslashes := List.eq_replicate_of_mem fun c hc =>
      eq_of_beq (List.mem_takeWhile_imp (p := (· == '/')) (l := cs) (x := c) hc)
    have hhead := List.head?_dropWhile_not (· == '/') cs
    generalize cs.dropWhile (· == '/') = ds at hfront hhead
    have hback : ds.rdropWhile (· == '/') ++ ds.rtakeWhile (· == '/') = ds :=
      List.rdropWhile_append_rtakeWhile
    have hslashes' := List.eq_replicate_of_mem fun c hc =>
      eq_of_beq (List.mem_rtakeWhile_imp (p := (· == '/')) (l := ds) (x := c) hc)
    refine ⟨⟨(cs.takeWhile (· == '/')).length, (ds.rtakeWhile (· == '/')).length, ?_⟩, ?_, ?_⟩
    · rw [← hslashes, ← hslashes', List.append_assoc, hback, hfront]
    · intro hslash
      -- what is kept stands at the start of what was left after the slashes in front
      rw [← hback, List.head?_append, hslash] at hhead
      cases hhead
    · intro hlast
      obtain ⟨hne, hslash⟩ := List.mem_getLast?_eq_getLast hlast
      exact List.rdropWhile_last_not (· == '/') ds hne (by rw [← hslash]; rfl)

/-! ## Going by a key -/

namespace Instance

/-- The identity ends in a slash and the key, without the slashes at the ends of the key. -/
def EndsIn (x : Instance) (key : String) : Prop :=
  ∃ bare, StripsTo key.toList bare ∧ '/' :: bare <:+ x.id.toList

/-- The key is the short name of the instance, or the end of its identity. -/
def GoesBy (x : Instance) (key : String) : Prop := x.slug = key ∨ x.EndsIn key

end Instance

theorem endsWith_iff {stop cs : List Char} : endsWith stop cs = true ↔ stop <:+ cs := by
  rw [endsWith, beginsWith_iff, List.reverse_prefix]

theorem Graph.goesBy_iff (key : String) (x : Instance) :
    Graph.goesBy key x = true ↔ x.GoesBy key := by
  rw [goesBy, Bool.or_eq_true, beq_iff_eq, endsWith_iff]
  refine or_congr Iff.rfl ?_
  constructor
  · intro h
    exact ⟨_, (stripsTo_iff key _).mpr rfl, h⟩
  · rintro ⟨bare, hbare, h⟩
    rwa [(stripsTo_iff key bare).mp hbare]

/-! ## What a lookup finds -/

/-- A live instance of a type that has the resolved identity of a key or goes by the key. -/
structure AnswersTo (base : String) (es : List Edit) (type key : String) (x : Instance) : Prop where
  live : Live base es x.id x
  typed : x.type = type
  known : x.id = resolveIdentity base key ∨ x.GoesBy key

/-- Of these, the one with the resolved identity, or else the one whose identity came first. -/
structure Preferred (base : String) (es : List Edit) (type key : String) (x : Instance) : Prop
    extends AnswersTo base es type key x where
  exact : ∀ y, AnswersTo base es type key y → y.id = resolveIdentity base key → x = y
  first : x.id ≠ resolveIdentity base key → ∀ y, AnswersTo base es type key y →
    ∃ m n, NewAt base es x.id m ∧ NewAt base es y.id n ∧ m ≤ n

namespace Graph

variable {g : Graph} {es : List Edit} {type key : String}

/-- The instance of a type under an identity. -/
def typed? (g : Graph) (type key : String) : Option Instance :=
  (g.find? key).filter fun i => i.type == type

theorem Reflects.typed?_eq_some_iff (h : g.Reflects es) (type key : String) (x : Instance) :
    g.typed? type key = some x ↔
      AnswersTo g.base es type key x ∧ x.id = resolveIdentity g.base key := by
  rw [typed?, Option.filter_eq_some_iff, h.find?_eq_some_iff, beq_iff_eq]
  constructor
  · rintro ⟨hlive, htype⟩
    have hid := h.keyed _ _ ((h.live _ _).mpr hlive)
    exact ⟨⟨hid ▸ hlive, htype, Or.inl hid⟩, hid⟩
  · rintro ⟨hx, hid⟩
    exact ⟨hid ▸ hx.live, hx.typed⟩

/-- Under one identity there is one instance. -/
theorem Reflects.preferred_of_typed? (h : g.Reflects es) {x : Instance}
    (hx : g.typed? type key = some x) : Preferred g.base es type key x := by
  obtain ⟨hanswers, hid⟩ := (h.typed?_eq_some_iff type key x).mp hx
  refine ⟨hanswers, ?_, ?_⟩
  · intro y hy hid'
    have hy := (h.typed?_eq_some_iff type key y).mpr ⟨hy, hid'⟩
    rw [hx] at hy
    exact Option.some.inj hy
  · intro hne
    exact absurd hid hne

/-- Two instances of a type stand in the order in which their identities came. -/
theorem Reflects.le_of_ofType (h : g.Reflects es) {before after : List Instance} {x y : Instance}
    (hsplit : g.ofType type = before ++ x :: after) (hy : y ∈ x :: after) :
    ∃ m n, NewAt g.base es x.id m ∧ NewAt g.base es y.id n ∧ m ≤ n := by
  have hkeys := h.map_id_ofType_sublist type
  have hordered := h.placed.ordered.sublist hkeys
  rw [hsplit, List.pairwise_map, List.pairwise_append, List.pairwise_cons] at hordered
  rcases List.mem_cons.mp hy with rfl | hy
  · have hmem : y.id ∈ (g.ofType type).map Instance.id := by simp [hsplit]
    obtain ⟨n, -, hn⟩ := h.placed.place y.id (hkeys.subset hmem)
    exact ⟨n, n, hn, hn, le_rfl⟩
  · obtain ⟨m, n, hm, hn, hlt⟩ := hordered.2.1.1 y hy
    exact ⟨m, n, hm, hn, hlt.le⟩

/-- The first instance of a type that goes by a key. -/
theorem Reflects.preferred_of_find? (h : g.Reflects es) {x : Instance}
    (hnone : g.typed? type key = none) (hfind : (g.ofType type).find? (goesBy key) = some x) :
    Preferred g.base es type key x := by
  obtain ⟨hgoes, before, after, hsplit, hbefore⟩ := List.find?_eq_some_iff_append.mp hfind
  obtain ⟨hlive, htype⟩ := (h.mem_ofType_iff type x).mp (List.mem_of_find?_eq_some hfind)
  have hexact : ∀ y, AnswersTo g.base es type key y → y.id ≠ resolveIdentity g.base key := by
    intro y hy hid
    have hsome := (h.typed?_eq_some_iff type key y).mpr ⟨hy, hid⟩
    rw [hnone] at hsome
    cases hsome
  refine ⟨⟨hlive, htype, Or.inr ((goesBy_iff key x).mp hgoes)⟩, ?_, ?_⟩
  · intro y hy hid
    exact absurd hid (hexact y hy)
  · intro _ y hy
    have hknown := hy.known.resolve_left (hexact y hy)
    have hmem : y ∈ before ++ x :: after := by
      rw [← hsplit, h.mem_ofType_iff]
      exact ⟨hy.live, hy.typed⟩
    rcases List.mem_append.mp hmem with hmem | hmem
    · have hnot := hbefore y hmem
      rw [(goesBy_iff key y).mpr hknown] at hnot
      cases hnot
    · exact h.le_of_ofType hsplit hmem

/-- An instance that answers is found under the identity, or is one that goes by the key. -/
theorem Reflects.find?_ne_none_of_answers (h : g.Reflects es) {y : Instance}
    (hy : AnswersTo g.base es type key y) (hnone : g.typed? type key = none) :
    (g.ofType type).find? (goesBy key) ≠ none := by
  intro hfind
  rcases hy.known with hid | hgoes
  · have hsome := (h.typed?_eq_some_iff type key y).mpr ⟨hy, hid⟩
    rw [hnone] at hsome
    cases hsome
  · refine List.find?_eq_none.mp hfind y ?_ ((goesBy_iff key y).mpr hgoes)
    exact (h.mem_ofType_iff type y).mpr ⟨hy.live, hy.typed⟩

/-- What a lookup finds, in the order in which it looks. -/
theorem lookup_eq (g : Graph) (type key : String) : g.lookup type key =
    match (g.typed? type key).or ((g.ofType type).find? (goesBy key)) with
    | some i => .ok i
    | none => g.get key := by
  rw [lookup, typed?]
  cases (g.find? key).filter fun i => i.type == type with
  | some i => rfl
  | none => cases (g.ofType type).find? (goesBy key) <;> rfl

/-- The preferred one of those that answer comes first in the order in which a lookup looks. -/
theorem Reflects.preferred_of_or (h : g.Reflects es) {x : Instance}
    (hx : (g.typed? type key).or ((g.ofType type).find? (goesBy key)) = some x) :
    Preferred g.base es type key x := by
  rcases Option.or_eq_some_iff.mp hx with htyped | ⟨hnone, hfind⟩
  · exact h.preferred_of_typed? htyped
  · exact h.preferred_of_find? hnone hfind

/-- With an instance of the type that answers to the key, the preferred one is found. -/
theorem Reflects.lookup_of_answers (h : g.Reflects es) {y : Instance}
    (hy : AnswersTo g.base es type key y) :
    ∃ x, g.lookup type key = .ok x ∧ Preferred g.base es type key x := by
  rw [lookup_eq]
  cases hx : (g.typed? type key).or ((g.ofType type).find? (goesBy key)) with
  | some x => exact ⟨x, rfl, h.preferred_of_or hx⟩
  | none =>
      obtain ⟨hnone, hfind⟩ := Option.or_eq_none_iff.mp hx
      exact absurd hfind (h.find?_ne_none_of_answers hy hnone)

/-- Without one, the answer is that of the identity alone. -/
theorem Reflects.lookup_of_not_answers (h : g.Reflects es)
    (hnone : ∀ y, ¬ AnswersTo g.base es type key y) : g.lookup type key = g.get key := by
  rw [lookup_eq]
  cases hx : (g.typed? type key).or ((g.ofType type).find? (goesBy key)) with
  | some x => exact absurd (h.preferred_of_or hx).toAnswersTo (hnone x)
  | none => rfl

/-! ## Instances of other types -/

/-- An instance under an identity of its own comes last. -/
theorem instances_add {i : Instance} (hfresh : g.find? i.id = none) :
    (g.add i).instances = g.instances ++ [g.adopted i] := by
  have hnew : g.resolve i.id ∉ Entries.keys g.entries := Entries.get?_eq_none_iff.mp hfresh
  rw [instances, add, Entries.put_of_notMem hnew, List.map_append]
  rfl

theorem ofType_add {i : Instance} (hfresh : g.find? i.id = none) (htype : i.type ≠ type) :
    (g.add i).ofType type = g.ofType type := by
  have hother : (g.adopted i).type ≠ type := htype
  rw [ofType, instances_add hfresh, List.filter_append, ofType]
  simp [hother]

theorem typed?_add {i : Instance} (hfresh : g.find? i.id = none) (htype : i.type ≠ type)
    (key : String) : (g.add i).typed? type key = g.typed? type key := by
  have hother : (g.adopted i).type ≠ type := htype
  rw [typed?, find?_add, typed?]
  split
  · rename_i hkey
    have hnone : g.find? key = none := by rwa [find?, ← hkey]
    simp [hnone, hother]
  · rfl

/-- What a lookup finds under a type stays when an instance of another type comes under an identity
of its own. -/
theorem lookup_add {i x : Instance} (hfresh : g.find? i.id = none) (htype : i.type ≠ type)
    (hx : g.lookup type key = .ok x) (hxtype : x.type = type) :
    (g.add i).lookup type key = .ok x := by
  rw [lookup_eq] at hx
  rw [lookup_eq, typed?_add hfresh htype, ofType_add hfresh htype]
  cases hfound : (g.typed? type key).or ((g.ofType type).find? (goesBy key)) with
  | some y =>
      rw [hfound] at hx
      exact hx
  | none =>
      -- an instance of the type under the identity of the key is no longer to be found here
      obtain ⟨hnone, -⟩ := Option.or_eq_none_iff.mp hfound
      rw [hfound, get] at hx
      have hother := Option.filter_eq_none_iff.mp hnone
      cases hfind : g.find? key with
      | none =>
          rw [hfind] at hx
          cases hx
      | some y =>
          rw [hfind] at hx
          cases hx
          exact absurd (beq_iff_eq.mpr hxtype) (hother x hfind)

end Graph

/-! ## The answers of a session -/

/-- What a key leads to under a type, in a session with a history of edits on a base. -/
structure Session.LooksUp (s : Session) (base : String) (es : List Edit) (type key : String) :
    Prop where
  /-- The accessor of the type looks the key up in the graph. -/
  accessor : Query.run (Query.access type [.text key]) s =
    ([], (s.sources.graph.lookup type key).map .inl, s)
  found : (∃ y, AnswersTo base es type key y) →
    ∃ x, s.sources.graph.lookup type key = .ok x ∧ Preferred base es type key x
  /-- Without an instance of the type that answers, the type plays no part. -/
  otherwise : (¬ ∃ y, AnswersTo base es type key y) →
    s.sources.graph.lookup type key = s.sources.graph.get key
  /-- An instance of another type, under an identity where nothing is live, changes nothing. -/
  isolated : ∀ x, s.sources.graph.lookup type key = .ok x → x.type = type →
    ∀ v i, Instance.ofValue v = .ok i → i.type ≠ type →
      (∀ y, ¬ Live base es (resolveIdentity base i.id) y) →
      (s.after [.register v]).sources.graph.lookup type key = .ok x

theorem Query.run_access_text (type key : String) (s : Session) :
    run (access type [.text key]) s = ([], (s.sources.graph.lookup type key).map .inl, s) := by
  unfold access
  cases hx : s.sources.graph.lookup type key <;> simp [run, graph, ofResult, hx] <;> rfl

theorem Graph.Reflects.looksUp {s : Session} {es : List Edit} (h : s.sources.graph.Reflects es)
    (type key : String) : s.LooksUp s.sources.graph.base es type key := by
  refine ⟨Query.run_access_text type key s, ?_, ?_, ?_⟩
  · rintro ⟨y, hy⟩
    exact h.lookup_of_answers hy
  · intro hnone
    exact h.lookup_of_not_answers (not_exists.mp hnone)
  · intro x hx hxtype v i hv htype hfresh
    rw [Session.graph_after, List.foldl_cons, List.foldl_nil, Graph.edited, hv]
    exact Graph.lookup_add ((h.find?_eq_none_iff i.id).mpr hfresh) htype hx hxtype

/-- **Lookup goes by type.**  In a session whose graph was made on a base with some values, after
whatever edits, a key that is looked up under a type leads to the instance of the type with its
identity, or else to the first one that goes by it, or else to what stands under the identity alone;
and instances of other types that come under identities of their own do not change the first two. -/
theorem lookup_type_directed {base : String} {vs : List Value} {s : Session}
    (hs : ({ base } : Graph).addAll vs = .ok s.sources.graph) (es : List Edit)
    (type key : String) :
    (s.after es).LooksUp base (vs.map .register ++ es) type key := by
  obtain ⟨hbase, hreflects⟩ := Session.reflects_after hs es
  have hlooksUp := hreflects.looksUp type key
  rw [hbase] at hlooksUp
  exact hlooksUp

/-! ### Namesakes -/

namespace Startups

/-- Two customers that go by the name of a startup: one by the end of its identity, the other by its
short name. -/
def namesakes : List Edit :=
  [.register (.entity "customers/acme" "Customer" 1 [] none),
    .register (.entity "corp" "Customer" 1 [("slug", .text "acme")] none)]

/-- The first of them, as the graph holds it. -/
def namesake : Instance :=
  ⟨"https://startups.do/customers/acme", "Customer", 1, [], some "https://startups.do"⟩

/-- The session with them. -/
def renowned : Session := Session.after ⟨⟨graph, []⟩, []⟩ namesakes

end Startups

/-- The general statement for them: the name leads to the startup under a type without an instance
that answers, but to the first namesake under the type of customers, also when a deal of that name
comes. -/
theorem lookup_type_directed_namesakes :
    ({ base := "https://startups.do" } : Graph).addAll Startups.values = .ok Startups.graph ∧
      Startups.renowned.LooksUp "https://startups.do"
        (Startups.values.map .register ++ Startups.namesakes) "Customer" "acme" ∧
      Startups.renowned.sources.graph.lookup "Customer" "acme" = .ok Startups.namesake ∧
      (Startups.renowned.after
        [.register (.entity "deals/acme" "Deal" 1 [] none)]).sources.graph.lookup
          "Customer" "acme" = .ok Startups.namesake ∧
      Startups.renowned.sources.graph.lookup "Deal" "acme" =
        Startups.renowned.sources.graph.get "acme" := by
  have hmade : ({ base := "https://startups.do" } : Graph).addAll Startups.values =
      .ok Startups.graph := rfl
  have hlooksUp := lookup_type_directed (s := ⟨⟨Startups.graph, []⟩, []⟩) hmade
    Startups.namesakes "Customer" "acme"
  exact ⟨hmade, hlooksUp, rfl, rfl, rfl⟩

end Entity
