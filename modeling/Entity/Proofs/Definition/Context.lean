import Entity.Proofs.Definition.Extension

/-!
# Inherited context

A definition has the context that its mapping gives, or else that of the parent object that the
mapping names.  Main statements: a child that names its parent as an object inherits the context; a
child by extension does so exactly if its parent has its context from its own mapping, or there is
nothing to inherit; and along a line of children that inherit, a context is the nearest one that a
mapping gives.
-/

namespace Entity

/-! ## Reading a context -/

/-- The context that a mapping gives: a text with something in it. -/
def ownContext (raw : Entries String Value) : Option String :=
  Text.nonEmpty? (Value.lookup raw "$context").text?

/-- How a context comes from a value and from what is inherited. -/
inductive ContextFrom (v : Value) (inherited context : Option String) : Prop where
  | falsy (hv : v.isFalsy = true) (h : context = inherited)
  | text {s : String} (hv : v = .text s) (hs : s.isEmpty = false) (h : context = some s)
  /-- Bytes are read as the text that they encode. -/
  | bytes {bs : List UInt8} {s : String} (hv : v = .bytes bs) (hbs : bs.isEmpty = false)
    (hs : String.fromUTF8? ⟨bs.toArray⟩ = some s) (h : context = some s)

variable {v : Value} {inherited context : Option String}

theorem contextFrom_of_readContext (h : readContext v inherited = .ok context) :
    ContextFrom v inherited context := by
  rw [readContext] at h
  by_cases hv : v.isFalsy = true
  · rw [if_pos hv] at h
    cases h
    exact .falsy hv rfl
  · rw [if_neg hv] at h
    cases v with
    | text s =>
        cases h
        exact .text rfl (by simpa [Value.isFalsy] using hv) rfl
    | bytes bs =>
        rw [requireText?] at h
        split at h
        · rename_i s hs
          cases h
          exact .bytes rfl (by simpa [Value.isFalsy] using hv) hs rfl
        · cases h
    | null => exact absurd rfl hv
    | _ => cases h

theorem isFalsy_of_not_isTruthy (hv : ¬ v.isTruthy = true) : v.isFalsy = true := by
  simpa [Value.isTruthy] using hv

/-- What is inherited is of no account to a value that is not falsy. -/
theorem readContext_of_isTruthy (hv : v.isTruthy = true) (inherited inherited' : Option String) :
    readContext v inherited = readContext v inherited' := by
  have hfalsy : v.isFalsy = false := by simpa [Value.isTruthy] using hv
  rw [readContext, readContext, hfalsy]
  rfl

theorem own_of_isFalsy (hv : v.isFalsy = true) : Text.nonEmpty? v.text? = none := by
  cases v with
  | text s =>
      have hs : s.isEmpty = true := hv
      simp [Value.text?, Text.nonEmpty?, hs]
  | _ => rfl

/-- A context is the one that the value gives, or else what is inherited, unless bytes are read as
another text. -/
theorem ContextFrom.eq_own_or_iff (h : ContextFrom v inherited context) :
    context = (Text.nonEmpty? v.text?).or inherited ↔
      (∀ bs, v = .bytes bs → bs.isEmpty = true) ∨ context = inherited := by
  cases h with
  | falsy hv h =>
      rw [own_of_isFalsy hv, Option.none_or]
      simp [h]
  | text hv hs h =>
      subst hv
      simp [Value.text?, Text.nonEmpty?, hs, h]
  | bytes hv hbs hs h =>
      subst hv
      have hne : _ ≠ [] := List.isEmpty_eq_false_iff.mp hbs
      simp [Value.text?, Text.nonEmpty?, hne]

/-! ## One child -/

namespace Definition

variable {d c : Definition} {part : Entries String Value}

/-- When a child by extension has its own context or else that of its parent. -/
inductive KeepsContext (d : Definition) (part : Entries String Value) : Prop where
  /-- The child gives a context. -/
  | own (h : (ownContext part).isSome = true)
  /-- The child says nothing, and the parent's own mapping gives its context. -/
  | handed (h : Entries.get? "$context" part = none)
    (hparent : (Value.lookup d.raw "$context").isTruthy = true)
  /-- The child gives no context, and the parent has none. -/
  | neither (h : (Value.lookup part "$context").isFalsy = true) (hparent : d.context = none)
  /-- The child gives bytes that are read as the context of the parent. -/
  | bytes {bs : List UInt8} {s : String} (h : Value.lookup part "$context" = .bytes bs)
    (hbs : bs.isEmpty = false) (hs : String.fromUTF8? ⟨bs.toArray⟩ = some s)
    (hparent : d.context = some s)

theorem contextFrom_of_read {raw : Entries String Value} (h : (Definition.read raw).result = .ok d) :
    ContextFrom (Value.lookup raw "$context") (readParent (Value.lookup raw "$extends")).2
      d.context := by
  obtain ⟨r, hr⟩ := exists_readFrom h
  exact contextFrom_of_readContext hr.context

/-- A child by extension reads its context from its own value, or from its parent's mapping; its
parent's context is not inherited in another way. -/
theorem readContext_of_extend (hpart : (Entries.keys part).Nodup)
    (hc : (d.extend part).result = .ok c) :
    readContext (((Entries.get? "$context" part).or (Entries.get? "$context" d.raw)).getD .null)
      none = .ok c.context := by
  obtain ⟨-, hread⟩ := extend_eq_ok_iff.mp hc
  obtain ⟨r, hr⟩ := exists_readFrom hread
  have hcontext := hr.context
  rw [readParent_childRaw, Value.lookup, get?_childRaw d hpart (by decide) (by decide),
    if_neg (by decide)] at hcontext
  exact hcontext

theorem ownContext_of_get? {v : Value} (h : Entries.get? "$context" part = some v) :
    ownContext part = Text.nonEmpty? v.text? := by
  rw [ownContext, Value.lookup_of_get?_eq_some h]

/-- A child that says nothing has the context of its parent if the parent's own mapping gives it; one
that the parent has inherited is lost. -/
theorem context_extend_of_absent (hd : (Definition.read d.raw).result = .ok d)
    (hpart : (Entries.keys part).Nodup) (hc : (d.extend part).result = .ok c)
    (habsent : Entries.get? "$context" part = none) :
    c.context = d.context ↔
      (Value.lookup d.raw "$context").isTruthy = true ∨ d.context = none := by
  have hchild := readContext_of_extend hpart hc
  rw [habsent, Option.none_or, ← Value.lookup] at hchild
  by_cases htruthy : (Value.lookup d.raw "$context").isTruthy = true
  · obtain ⟨r, hr⟩ := exists_readFrom hd
    have hparent := hr.context
    rw [readContext_of_isTruthy htruthy _ none, hchild] at hparent
    exact iff_of_true (Except.ok.inj hparent) (.inl htruthy)
  · have hfalsy := isFalsy_of_not_isTruthy htruthy
    rw [readContext, if_pos hfalsy] at hchild
    have hnone : none = c.context := Except.ok.inj hchild
    rw [← hnone, eq_comm]
    exact (or_iff_right htruthy).symm

/-- A child that gives a value has the context that this is read as; one that is falsy ends what the
parent has. -/
theorem context_extend_of_given (hpart : (Entries.keys part).Nodup)
    (hc : (d.extend part).result = .ok c) {v : Value}
    (hgiven : Entries.get? "$context" part = some v) : ContextFrom v none c.context := by
  have hchild := readContext_of_extend hpart hc
  rw [hgiven, Option.some_or, Option.getD_some] at hchild
  exact contextFrom_of_readContext hchild

theorem keepsContext_iff_of_absent (habsent : Entries.get? "$context" part = none) :
    d.KeepsContext part ↔
      (Value.lookup d.raw "$context").isTruthy = true ∨ d.context = none := by
  have hlookup : Value.lookup part "$context" = .null := Value.lookup_of_get?_eq_none habsent
  constructor
  · intro hkeeps
    cases hkeeps with
    | own h => simp [ownContext, hlookup, Value.text?, Text.nonEmpty?] at h
    | handed _ hparent => exact .inl hparent
    | neither _ hparent => exact .inr hparent
    | bytes h => simp [hlookup] at h
  · rintro (htruthy | hnone)
    · exact .handed habsent htruthy
    · exact .neither (by rw [hlookup]; rfl) hnone

theorem keepsContext_iff_of_given {v : Value} (hgiven : Entries.get? "$context" part = some v)
    (hfrom : ContextFrom v none context) :
    d.KeepsContext part ↔ context = (Text.nonEmpty? v.text?).or d.context := by
  have hlookup : Value.lookup part "$context" = v := Value.lookup_of_get?_eq_some hgiven
  have hown := ownContext_of_get? hgiven
  cases hfrom with
  | falsy hv h =>
      rw [own_of_isFalsy hv] at hown ⊢
      rw [Option.none_or, h]
      constructor
      · intro hkeeps
        cases hkeeps with
        | own h => simp [hown] at h
        | handed h => simp [hgiven] at h
        | neither _ hparent => exact hparent.symm
        | bytes h hbs =>
            rw [← hlookup, h] at hv
            simp [Value.isFalsy, hbs] at hv
      · intro hnone
        exact .neither (by rw [hlookup]; exact hv) hnone.symm
  | @text s hv hs h =>
      subst hv
      have hsome : Text.nonEmpty? (Value.text s).text? = context := by
        simp [Value.text?, Text.nonEmpty?, hs, h]
      refine iff_of_true (.own ?_) ?_
      · rw [hown, hsome, h]
        rfl
      · rw [hsome, h, Option.some_or]
  | @bytes bs s hv hbs hs h =>
      subst hv
      have hnone : Text.nonEmpty? (Value.bytes bs).text? = none := rfl
      rw [hnone] at hown ⊢
      rw [Option.none_or, h]
      constructor
      · intro hkeeps
        cases hkeeps with
        | own h => simp [hown] at h
        | handed h => simp [hgiven] at h
        | neither h => simp [hlookup, Value.isFalsy, hbs] at h
        | bytes h' _ hs' hparent =>
            rw [hlookup] at h'
            cases h'
            rw [hparent, ← hs, ← hs']
      · intro hcontext
        exact .bytes hlookup hbs hs hcontext.symm

theorem context_extend_iff (hd : (Definition.read d.raw).result = .ok d)
    (hpart : (Entries.keys part).Nodup) (hc : (d.extend part).result = .ok c) :
    c.context = (ownContext part).or d.context ↔ d.KeepsContext part := by
  cases hgiven : Entries.get? "$context" part with
  | none =>
      have hown : ownContext part = none := by
        rw [ownContext, Value.lookup_of_get?_eq_none hgiven]
        rfl
      rw [hown, Option.none_or, context_extend_of_absent hd hpart hc hgiven,
        keepsContext_iff_of_absent hgiven]
  | some v =>
      have hfrom := context_extend_of_given hpart hc hgiven
      rw [ownContext_of_get? hgiven, keepsContext_iff_of_given hgiven hfrom]

/-- A child that names its parent as an object has its own context or else that of its parent, unless
its own is bytes that are read as another text. -/
theorem context_object_iff {raw : Entries String Value}
    (hparent : Entries.get? "$extends" raw = some d.toValue)
    (hc : (Definition.read raw).result = .ok c) :
    c.context = (ownContext raw).or d.context ↔
      (∀ bs, Value.lookup raw "$context" = .bytes bs → bs.isEmpty = true) ∨
        c.context = d.context := by
  have hfrom := contextFrom_of_read hc
  have hinherited : (readParent (Value.lookup raw "$extends")).2 = d.context := by
    rw [Value.lookup_of_get?_eq_some hparent]
    rfl
  rw [hinherited] at hfrom
  exact hfrom.eq_own_or_iff

/-- **Which children inherit their context.** -/
theorem context_inherited_iff (hd : (Definition.read d.raw).result = .ok d) :
    (∀ part c, (Entries.keys part).Nodup → (d.extend part).result = .ok c →
      (c.context = (ownContext part).or d.context ↔ d.KeepsContext part)) ∧
    ∀ raw c, Entries.get? "$extends" raw = some d.toValue →
      (Definition.read raw).result = .ok c →
      (c.context = (ownContext raw).or d.context ↔
        (∀ bs, Value.lookup raw "$context" = .bytes bs → bs.isEmpty = true) ∨
          c.context = d.context) :=
  ⟨fun _ _ hpart hc => context_extend_iff hd hpart hc,
    fun _ _ hparent hc => context_object_iff hparent hc⟩

namespace Press

/-- A definition with a context of its own. -/
def paper : Entries String Value := [("$type", .text "Paper"), ("$context", .text "https://a.do")]

/-- A child that says nothing about its context. -/
def daily : Entries String Value := [("$type", .text "Daily")]

/-- A child that names a parent as an object. -/
def weekly (parent : Definition) : Entries String Value :=
  [("$type", .text "Weekly"), ("$extends", parent.toValue)]

end Press

/-- The general statement for a definition with a context of its own, and children of both kinds. -/
theorem context_inherited_iff_press : ∃ d c c' : Definition,
    ((Definition.read d.raw).result = .ok d ∧ d.context = some "https://a.do") ∧
    ((Entries.keys Press.daily).Nodup ∧ (d.extend Press.daily).result = .ok c ∧
      d.KeepsContext Press.daily ∧ c.context = (ownContext Press.daily).or d.context) ∧
    Entries.get? "$extends" (Press.weekly d) = some d.toValue ∧
      (Definition.read (Press.weekly d)).result = .ok c' ∧
      (∀ bs, Value.lookup (Press.weekly d) "$context" = .bytes bs → bs.isEmpty = true) ∧
      c'.context = (ownContext (Press.weekly d)).or d.context := by
  obtain ⟨d, c, c', hread, hcontext, hc, hc'⟩ : ∃ d c c' : Definition,
      (Definition.read Press.paper).result = .ok d ∧ d.context = some "https://a.do" ∧
      (d.extend Press.daily).result = .ok c ∧
      (Definition.read (Press.weekly d)).result = .ok c' := ⟨_, _, _, rfl, rfl, rfl, rfl⟩
  have hraw : d.raw = Press.paper := raw_of_read hread
  rw [← hraw] at hread
  have hdaily : (Entries.keys Press.daily).Nodup := by decide
  have hkeeps : d.KeepsContext Press.daily := by
    refine .handed rfl ?_
    rw [hraw]
    rfl
  have hplain : ∀ bs, Value.lookup (Press.weekly d) "$context" = .bytes bs → bs.isEmpty = true := by
    rintro bs ⟨⟩
  obtain ⟨hextend, hobject⟩ := context_inherited_iff hread
  exact ⟨d, c, c', ⟨hread, hcontext⟩,
    ⟨hdaily, hc, hkeeps, (hextend _ c hdaily hc).mpr hkeeps⟩, rfl, hc', hplain,
    (hobject _ c' rfl hc').mpr (.inl hplain)⟩

/-- A context that comes from a parent object is not that of a child by extension. -/
theorem context_lost_press : ∃ d c e : Definition,
    (Definition.read Press.paper).result = .ok d ∧
    (Definition.read (Press.weekly d)).result = .ok c ∧ c.context = some "https://a.do" ∧
    (c.extend Press.daily).result = .ok e ∧ e.context = none ∧
    ¬ e.context = (ownContext Press.daily).or c.context :=
  ⟨_, _, _, rfl, rfl, rfl, rfl, rfl, by simp [Press.daily, ownContext, Value.lookup]⟩

/-! ## Lines of children -/

/-- A definition that no parent object gives a context hands its own on to a child that says
nothing: a child by extension does so. -/
theorem keepsContext_of_inherited_none (hd : (Definition.read d.raw).result = .ok d)
    (hinherited : (readParent (Value.lookup d.raw "$extends")).2 = none)
    (habsent : Entries.get? "$context" part = none) : d.KeepsContext part := by
  by_cases htruthy : (Value.lookup d.raw "$context").isTruthy = true
  · exact .handed habsent htruthy
  · have hfalsy := isFalsy_of_not_isTruthy htruthy
    have hnothing : (Value.lookup part "$context").isFalsy = true := by
      rw [Value.lookup_of_get?_eq_none habsent]
      rfl
    obtain ⟨r, hr⟩ := exists_readFrom hd
    have hcontext := hr.context
    rw [readContext, if_pos hfalsy, hinherited] at hcontext
    exact .neither hnothing (Except.ok.inj hcontext).symm

/-- A line of children from one definition down to another, with the mappings of the children, the
last one first, in which each inherits its context. -/
inductive Lineage (root : Definition) : List (Entries String Value) → Definition → Prop where
  | root : Lineage root [] root
  | extend {parts : List (Entries String Value)} {d c : Definition} {part : Entries String Value}
    (h : Lineage root parts d) (hpart : (Entries.keys part).Nodup)
    (hkeeps : d.KeepsContext part) (hc : (d.extend part).result = .ok c) :
    Lineage root (part :: parts) c
  | object {parts : List (Entries String Value)} {d c : Definition} {raw : Entries String Value}
    (h : Lineage root parts d) (hparent : Entries.get? "$extends" raw = some d.toValue)
    (hplain : ∀ bs, Value.lookup raw "$context" = .bytes bs → bs.isEmpty = true)
    (hc : (Definition.read raw).result = .ok c) : Lineage root (raw :: parts) c

namespace Lineage

variable {root : Definition} {parts : List (Entries String Value)}

theorem read (hroot : (Definition.read root.raw).result = .ok root) (h : Lineage root parts d) :
    (Definition.read d.raw).result = .ok d := by
  cases h with
  | root => exact hroot
  | extend _ _ _ hc =>
      obtain ⟨-, hread⟩ := extend_eq_ok_iff.mp hc
      rwa [raw_of_read hread]
  | object _ _ _ hc => rwa [raw_of_read hc]

/-- **Along a line of children that inherit, a context is the nearest one that a mapping gives**, or
else that of the root, by induction on the line. -/
theorem context_eq (hroot : (Definition.read root.raw).result = .ok root)
    (h : Lineage root parts d) : d.context = (parts.findSome? ownContext).or root.context := by
  have hcons (part : Entries String Value) (parts : List (Entries String Value)) :
      (part :: parts).findSome? ownContext =
        (ownContext part).or (parts.findSome? ownContext) := by
    rw [List.findSome?_cons]
    cases ownContext part <;> rfl
  induction h with
  | root => rfl
  | extend h hpart hkeeps hc ih =>
      rw [(context_extend_iff (h.read hroot) hpart hc).mpr hkeeps, ih, hcons, Option.or_assoc]
  | object h hparent hplain hc ih =>
      rw [(context_object_iff hparent hc).mpr (.inl hplain), ih, hcons, Option.or_assoc]

end Lineage

end Definition

end Entity
