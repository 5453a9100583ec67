import Entity.Formula.Paths
import Entity.Proofs.Outcome
import Mathlib.Tactic.Common

/-!
# Scopes of formulas

A name in a formula may be bound at one place and free at another: a parameter is bound in the body
of its function, the target of a comprehension in all of it but its first source, and a name given
to a value in the whole function around it.  The compiler keeps one list of names for the whole
formula.  Main statements: what looking names up by their scopes does to every occurrence of a name,
and that the compiler does just this exactly for the formulas in which its list agrees with the
scope of every occurrence.
-/

namespace Entity.Formula

open Entity.Text

namespace Tree

/-! ## What binds names -/

mutual

/-- The names that are given to values in the function that a tree belongs to: also those in its
comprehensions and in the defaults of its functions, but not those in the bodies of its functions. -/
def assignedNames : Tree → List String
  | .absent => []
  | .name _ => []
  | .literal _ => []
  | .formatted parts => assignedNamesOfAll parts
  | .field value _ format => assignedNames value ++ assignedNamesOfAll format
  | .member value _ => assignedNames value
  | .subscript value index => assignedNames value ++ assignedNames index
  | .slice low high step => assignedNames low ++ assignedNames high ++ assignedNames step
  | .call function arguments => assignedNames function ++ assignedNamesOfAll arguments
  | .keyword _ value => assignedNames value
  | .starred value => assignedNames value
  | .unpacked value => assignedNames value
  | .unary _ operand => assignedNames operand
  | .binary _ left right => assignedNames left ++ assignedNames right
  | .boolean _ operands => assignedNamesOfAll operands
  | .comparison _ operands => assignedNamesOfAll operands
  | .conditional body test otherwise =>
    assignedNames body ++ assignedNames test ++ assignedNames otherwise
  | .lambda parameters _ => assignedNamesOfAll parameters
  | .parameter _ _ default => assignedNames default
  | .tuple items => assignedNamesOfAll items
  | .list items => assignedNamesOfAll items
  | .set items => assignedNamesOfAll items
  | .dict entries => assignedNamesOfAll entries
  | .entry key value => assignedNames key ++ assignedNames value
  | .comprehension _ element clauses => assignedNames element ++ assignedNamesOfAll clauses
  | .clause _ target source conditions =>
    assignedNames target ++ assignedNames source ++ assignedNamesOfAll conditions
  | .assigned id value => id :: assignedNames value
  | .await value => assignedNames value
  | .yield value => assignedNames value
  | .yieldFrom value => assignedNames value

/-- The names that are given to values in trees. -/
def assignedNamesOfAll : List Tree → List String
  | [] => []
  | t :: ts => assignedNames t ++ assignedNamesOfAll ts

end

/-- The name that a parameter of any kind binds. -/
def parameterName? : Tree → Option String
  | .parameter _ id _ => some id
  | _ => none

/-- The names that parameters bind. -/
def parameterNames (parameters : List Tree) : List String := parameters.filterMap parameterName?

/-- The names that a clause of a comprehension binds. -/
def clauseNames : Tree → List String
  | .clause _ target _ _ => boundByTarget target
  | _ => []

/-- The names that the clauses of a comprehension bind. -/
def targetNames (clauses : List Tree) : List String := clauses.flatMap clauseNames

/-! ## Places -/

/-- Where a tree stands. -/
structure Place where
  /-- The names that are bound here. -/
  bound : List String
  /-- The names that are bound in the source of a clause that stands here. -/
  source : List String
  /-- A name that stands here is being bound. -/
  isTarget : Bool
  deriving DecidableEq, Repr, Inhabited

namespace Place

/-- A place where names have their values. -/
def value (bound : List String) : Place := ⟨bound, bound, false⟩

/-- A place where names are bound. -/
def target (bound : List String) : Place := ⟨bound, bound, true⟩

/-- The place of a part whose names have their values. -/
def inner (p : Place) : Place := value p.bound

/-- The place of what comes after a first tree at this place, or of an item at this place. -/
def next (p : Place) : Place := { p with source := p.bound }

/-- The place of the body of a function: parameters are bound, and what is assigned in the body. -/
def body (p : Place) (parameters : List Tree) (body : Tree) : Place :=
  value (parameterNames parameters ++ assignedNames body ++ p.bound)

/-- The place of the element of a comprehension: what its clauses bind is bound. -/
def element (p : Place) (clauses : List Tree) : Place := value (targetNames clauses ++ p.bound)

/-- The place of the first clause of a comprehension: its source does not know what is bound. -/
def clauses (p : Place) (clauses : List Tree) : Place :=
  { p.element clauses with source := p.bound }

end Place

/-! ## Looking names up by their scopes -/

/-- A name stays where it is bound, or if it is always there. -/
def stays (bound : List String) (id : String) : Bool := isAlwaysThere id || bound.contains id

mutual

/-- The tree with every name that is free at its place, and the dotted path on it, looked up in the
record. -/
def resolved (record : String) (p : Place) : Tree → Tree
  | .absent => .absent
  | .name id => if p.isTarget || stays p.bound id then .name id else lookup record [id]
  | .literal l => .literal l
  | .formatted parts => .formatted (allResolved record p.inner parts)
  | .field value conversion format =>
    .field (resolved record p.inner value) conversion (allResolved record p.inner format)
  | .member value id =>
    lookupMember record (stays p.bound) value (resolved record p.inner value) id
  | .subscript value index =>
    .subscript (resolved record p.inner value) (resolved record p.inner index)
  | .slice low high step =>
    .slice (resolved record p.inner low) (resolved record p.inner high)
      (resolved record p.inner step)
  | .call function arguments =>
    .call (resolved record p.inner function) (allResolved record p.inner arguments)
  | .keyword id value => .keyword id (resolved record p.inner value)
  | .starred value => .starred (resolved record p.next value)
  | .unpacked value => .unpacked (resolved record p.inner value)
  | .unary op operand => .unary op (resolved record p.inner operand)
  | .binary op left right =>
    .binary op (resolved record p.inner left) (resolved record p.inner right)
  | .boolean op operands => .boolean op (allResolved record p.inner operands)
  | .comparison ops operands => .comparison ops (allResolved record p.inner operands)
  | .conditional body test otherwise =>
    .conditional (resolved record p.inner body) (resolved record p.inner test)
      (resolved record p.inner otherwise)
  | .lambda parameters body =>
    .lambda (allResolved record p.inner parameters) (resolved record (p.body parameters body) body)
  | .parameter kind id default => .parameter kind id (resolved record p.inner default)
  | .tuple items => .tuple (allResolved record p.next items)
  | .list items => .list (allResolved record p.next items)
  | .set items => .set (allResolved record p.inner items)
  | .dict entries => .dict (allResolved record p.inner entries)
  | .entry key value => .entry (resolved record p.inner key) (resolved record p.inner value)
  | .comprehension kind element clauses =>
    .comprehension kind (resolved record (p.element clauses) element)
      (allResolved record (p.clauses clauses) clauses)
  | .clause isAsync target source conditions =>
    .clause isAsync (resolved record (.target p.bound) target)
      (resolved record (.value p.source) source) (allResolved record p.inner conditions)
  | .assigned id value => .assigned id (resolved record p.inner value)
  | .await value => .await (resolved record p.inner value)
  | .yield value => .yield (resolved record p.inner value)
  | .yieldFrom value => .yieldFrom (resolved record p.inner value)

/-- The trees with their free names looked up. -/
def allResolved (record : String) (p : Place) : List Tree → List Tree
  | [] => []
  | t :: ts => resolved record p t :: allResolved record p.next ts

end

/-! ## Occurrences -/

/-- An occurrence of a name that has its value there. -/
structure Occurrence where
  name : String
  /-- The names that are bound at this place. -/
  bound : List String
  deriving DecidableEq, Repr, Inhabited

namespace Occurrence

/-- The name is bound at this place. -/
def isBound (o : Occurrence) : Bool := o.bound.contains o.name

/-- The name stays: it is bound at this place or always there. -/
def stays (o : Occurrence) : Bool := Tree.stays o.bound o.name

end Occurrence

mutual

/-- The occurrences of names in a tree, in order. -/
def occurrences (p : Place) : Tree → List Occurrence
  | .absent => []
  | .name id => if p.isTarget then [] else [⟨id, p.bound⟩]
  | .literal _ => []
  | .formatted parts => occurrencesInAll p.inner parts
  | .field value _ format => occurrences p.inner value ++ occurrencesInAll p.inner format
  | .member value _ => occurrences p.inner value
  | .subscript value index => occurrences p.inner value ++ occurrences p.inner index
  | .slice low high step =>
    occurrences p.inner low ++ occurrences p.inner high ++ occurrences p.inner step
  | .call function arguments => occurrences p.inner function ++ occurrencesInAll p.inner arguments
  | .keyword _ value => occurrences p.inner value
  | .starred value => occurrences p.next value
  | .unpacked value => occurrences p.inner value
  | .unary _ operand => occurrences p.inner operand
  | .binary _ left right => occurrences p.inner left ++ occurrences p.inner right
  | .boolean _ operands => occurrencesInAll p.inner operands
  | .comparison _ operands => occurrencesInAll p.inner operands
  | .conditional body test otherwise =>
    occurrences p.inner body ++ occurrences p.inner test ++ occurrences p.inner otherwise
  | .lambda parameters body =>
    occurrencesInAll p.inner parameters ++ occurrences (p.body parameters body) body
  | .parameter _ _ default => occurrences p.inner default
  | .tuple items => occurrencesInAll p.next items
  | .list items => occurrencesInAll p.next items
  | .set items => occurrencesInAll p.inner items
  | .dict entries => occurrencesInAll p.inner entries
  | .entry key value => occurrences p.inner key ++ occurrences p.inner value
  | .comprehension _ element clauses =>
    occurrences (p.element clauses) element ++ occurrencesInAll (p.clauses clauses) clauses
  | .clause _ target source conditions =>
    occurrences (.target p.bound) target ++ occurrences (.value p.source) source ++
      occurrencesInAll p.inner conditions
  | .assigned _ value => occurrences p.inner value
  | .await value => occurrences p.inner value
  | .yield value => occurrences p.inner value
  | .yieldFrom value => occurrences p.inner value

/-- The occurrences of names in trees. -/
def occurrencesInAll (p : Place) : List Tree → List Occurrence
  | [] => []
  | t :: ts => occurrences p t ++ occurrencesInAll p.next ts

end

/-! ## Parts -/

/-- The trees that a tree is made of. -/
def parts : Tree → List Tree
  | .absent => []
  | .name _ => []
  | .literal _ => []
  | .formatted parts => parts
  | .field value _ format => value :: format
  | .member value _ => [value]
  | .subscript value index => [value, index]
  | .slice low high step => [low, high, step]
  | .call function arguments => function :: arguments
  | .keyword _ value => [value]
  | .starred value => [value]
  | .unpacked value => [value]
  | .unary _ operand => [operand]
  | .binary _ left right => [left, right]
  | .boolean _ operands => operands
  | .comparison _ operands => operands
  | .conditional body test otherwise => [body, test, otherwise]
  | .lambda parameters body => body :: parameters
  | .parameter _ _ default => [default]
  | .tuple items => items
  | .list items => items
  | .set items => items
  | .dict entries => entries
  | .entry key value => [key, value]
  | .comprehension _ element clauses => element :: clauses
  | .clause _ target source conditions => target :: source :: conditions
  | .assigned _ value => [value]
  | .await value => [value]
  | .yield value => [value]
  | .yieldFrom value => [value]

theorem sizeOf_lt_of_mem_parts {s t : Tree} (h : s ∈ t.parts) : sizeOf s < sizeOf t := by
  have hlist : ∀ {ts : List Tree}, s ∈ ts → sizeOf s < sizeOf ts := List.sizeOf_lt_of_mem
  cases t <;> simp [parts] at h ⊢ <;> grind

/-- What holds of a tree whenever it holds of its parts holds of every tree. -/
@[elab_as_elim]
theorem induction_on_parts {motive : Tree → Prop} (t : Tree)
    (step : ∀ t, (∀ s ∈ t.parts, motive s) → motive t) : motive t :=
  step t fun s _ => induction_on_parts s step
termination_by sizeOf t
decreasing_by exact sizeOf_lt_of_mem_parts ‹_›

/-! ## Paths -/

/-- A path is a name with members, and the name is all that occurs in it. -/
theorem exists_of_path? {t : Tree} {path : List String} (h : path? t = some path) :
    ∃ root rest, path = root :: rest ∧ assignedNames t = [] ∧
      ∀ bound, occurrences (.value bound) t = [⟨root, bound⟩] := by
  induction t using induction_on_parts generalizing path with
  | step t ih =>
      cases t with
      | name id =>
          cases h
          exact ⟨id, [], rfl, rfl, fun _ => rfl⟩
      | member value id =>
          obtain ⟨path', hpath, rfl⟩ := Option.map_eq_some_iff.mp h
          obtain ⟨root, rest, rfl, hassigned, hoccurs⟩ := ih value List.mem_cons_self hpath
          exact ⟨root, rest ++ [id], rfl, hassigned, hoccurs⟩
      | _ => cases h

/-- A member of a path is looked up with the path unless its first name stays; another member
belongs to what is read before it. -/
theorem lookupMember_cases (record : String) (keep : String → Bool) (value inner : Tree)
    (id : String) :
    (∃ root rest, path? value = some (root :: rest) ∧ keep root = false ∧
      lookupMember record keep value inner id = lookup record (root :: (rest ++ [id]))) ∨
    ((∀ root rest, path? value = some (root :: rest) → keep root = true) ∧
      lookupMember record keep value inner id = .member inner id) := by
  unfold lookupMember
  split
  · rename_i root rest hpath
    by_cases hkeep : keep root = true
    · refine .inr ⟨fun root' rest' h => ?_, by rw [if_pos hkeep]⟩
      rw [hpath] at h
      cases h
      exact hkeep
    · exact .inl ⟨root, rest, hpath, by simpa using hkeep, by rw [if_neg hkeep]⟩
  · rename_i hpath
    exact .inr ⟨fun root rest h => absurd h (hpath root rest), rfl⟩

/-! ## Names are bound where they were bound -/

theorem assignedNamesOfAll_allResolved {record : String} {ts : List Tree}
    (h : ∀ t ∈ ts, ∀ p, (resolved record p t).assignedNames = t.assignedNames) (p : Place) :
    assignedNamesOfAll (allResolved record p ts) = assignedNamesOfAll ts := by
  induction ts generalizing p with
  | nil => rfl
  | cons t ts ih =>
      rw [allResolved, assignedNamesOfAll, h t List.mem_cons_self,
        ih fun s hs => h s (List.mem_cons_of_mem t hs), assignedNamesOfAll]

/-- Looking names up assigns nothing else. -/
theorem assignedNames_resolved (record : String) (p : Place) (t : Tree) :
    (resolved record p t).assignedNames = t.assignedNames := by
  induction t using induction_on_parts generalizing p with
  | step t ih =>
      cases t with
      | name id =>
          rw [resolved]
          split <;> rfl
      | member value id =>
          rw [resolved]
          rcases lookupMember_cases record (stays p.bound) value (resolved record p.inner value) id
            with ⟨root, rest, hpath, -, hlookup⟩ | ⟨-, hmember⟩
          · obtain ⟨-, -, -, hassigned, -⟩ := exists_of_path? hpath
            rw [hlookup, assignedNames, hassigned]
            rfl
          · rw [hmember, assignedNames, assignedNames, ih value List.mem_cons_self]
      | _ =>
        simp only [parts, List.forall_mem_cons] at ih
        simp +contextual [resolved, assignedNames, assignedNamesOfAll_allResolved, ih]

/-- Targets bind the names that they bound. -/
theorem boundByTarget_resolved (record : String) {p : Place} (hp : p.isTarget = true) (t : Tree) :
    boundByTarget (resolved record p t) = boundByTarget t := by
  induction t using induction_on_parts generalizing p with
  | step t ih =>
      have hitems : ∀ ts ⊆ t.parts, ∀ {p : Place}, p.isTarget = true →
          boundByTargets (allResolved record p ts) = boundByTargets ts := by
        intro ts hts p hp
        induction ts generalizing p with
        | nil => rfl
        | cons s ts ihts =>
            have hs := List.cons_subset.mp hts
            rw [allResolved, boundByTargets, ih s hs.1 hp, ihts hs.2 (p := p.next) hp,
              boundByTargets]
      cases t with
      | name id => simp [resolved, hp]
      | member value id =>
          rw [resolved]
          rcases lookupMember_cases record (stays p.bound) value (resolved record p.inner value) id
            with ⟨root, rest, -, -, hlookup⟩ | ⟨-, hmember⟩
          · rw [hlookup]
            rfl
          · rw [hmember]
            rfl
      | starred value =>
          rw [resolved, boundByTarget, ih value List.mem_cons_self (p := p.next) hp, boundByTarget]
      | tuple items =>
          rw [resolved, boundByTarget, hitems items (List.Subset.refl _) (p := p.next) hp,
            boundByTarget]
      | list items =>
          rw [resolved, boundByTarget, hitems items (List.Subset.refl _) (p := p.next) hp,
            boundByTarget]
      | _ => rfl

/-- A tree of another kind than names and members keeps its kind. -/
theorem clauseNames_resolved (record : String) (p : Place) (t : Tree) :
    clauseNames (resolved record p t) = clauseNames t := by
  cases t with
  | name id =>
      rw [resolved]
      split <;> rfl
  | member value id =>
      rw [resolved]
      rcases lookupMember_cases record (stays p.bound) value (resolved record p.inner value) id
        with ⟨root, rest, -, -, hlookup⟩ | ⟨-, hmember⟩
      · rw [hlookup]
        rfl
      · rw [hmember]
        rfl
  | clause isAsync target source conditions => exact boundByTarget_resolved record rfl target
  | _ => rfl

theorem parameterName?_resolved (record : String) (p : Place) (t : Tree) :
    parameterName? (resolved record p t) = parameterName? t := by
  cases t with
  | name id =>
      rw [resolved]
      split <;> rfl
  | member value id =>
      rw [resolved]
      rcases lookupMember_cases record (stays p.bound) value (resolved record p.inner value) id
        with ⟨root, rest, -, -, hlookup⟩ | ⟨-, hmember⟩
      · rw [hlookup]
        rfl
      · rw [hmember]
        rfl
  | _ => rfl

theorem targetNames_allResolved (record : String) (p : Place) (clauses : List Tree) :
    targetNames (allResolved record p clauses) = targetNames clauses := by
  unfold targetNames
  induction clauses generalizing p with
  | nil => rfl
  | cons t ts ih =>
      rw [allResolved, List.flatMap_cons, ih, clauseNames_resolved, List.flatMap_cons]

theorem parameterNames_allResolved (record : String) (p : Place) (parameters : List Tree) :
    parameterNames (allResolved record p parameters) = parameterNames parameters := by
  unfold parameterNames
  induction parameters generalizing p with
  | nil => rfl
  | cons t ts ih =>
      rw [allResolved, List.filterMap_cons, ih, parameterName?_resolved, List.filterMap_cons]

/-! ## What looking up does to occurrences -/

/-- An occurrence with its name looked up in the record unless it stays. -/
def Occurrence.resolved (record : String) (o : Occurrence) : List Occurrence :=
  if o.stays then [o] else [⟨"_path", o.bound⟩, ⟨record, o.bound⟩]

theorem occurrencesInAll_allResolved {record : String} {ts : List Tree}
    (h : ∀ t ∈ ts, ∀ p, occurrences p (resolved record p t) =
      (occurrences p t).flatMap (Occurrence.resolved record)) (p : Place) :
    occurrencesInAll p (allResolved record p ts) =
      (occurrencesInAll p ts).flatMap (Occurrence.resolved record) := by
  induction ts generalizing p with
  | nil => rfl
  | cons t ts ih =>
      rw [allResolved, occurrencesInAll, h t List.mem_cons_self,
        ih fun s hs => h s (List.mem_cons_of_mem t hs), occurrencesInAll, List.flatMap_append]

/-- Every occurrence stays where its name is bound or always there, and becomes one lookup in the
record otherwise. -/
theorem occurrences_resolved (record : String) (p : Place) (t : Tree) :
    occurrences p (resolved record p t) =
      (occurrences p t).flatMap (Occurrence.resolved record) := by
  induction t using induction_on_parts generalizing p with
  | step t ih =>
      cases t with
      | name id =>
          by_cases htarget : p.isTarget = true
          · simp [resolved, occurrences, htarget]
          · by_cases hstays : stays p.bound id = true
            · simp [resolved, occurrences, htarget, hstays, Occurrence.resolved, Occurrence.stays]
            · simp [resolved, occurrences, occurrencesInAll, htarget, hstays, lookup,
                Occurrence.resolved, Occurrence.stays, Place.inner, Place.value]
      | member value id =>
          rw [resolved]
          rcases lookupMember_cases record (stays p.bound) value (resolved record p.inner value) id
            with ⟨root, rest, hpath, hroot, hlookup⟩ | ⟨-, hmember⟩
          · obtain ⟨_, _, hnames, -, hoccurs⟩ := exists_of_path? hpath
            cases hnames
            rw [hlookup, occurrences, Place.inner, hoccurs, List.flatMap_singleton,
              Occurrence.resolved, Occurrence.stays, hroot]
            rfl
          · rw [hmember, occurrences, occurrences, ih value List.mem_cons_self]
      | _ =>
        simp only [parts, List.forall_mem_cons] at ih
        simp +contextual [resolved, occurrences, occurrencesInAll_allResolved, Place.body, Place.element, Place.clauses, parameterNames_allResolved, targetNames_allResolved, assignedNames_resolved, ih]

/-! ## Lookups with one list of names -/

theorem boundNames_subset_of_mem {s : Tree} {ts : List Tree} (h : s ∈ ts) :
    s.boundNames ⊆ boundNamesOfAll ts := by
  induction ts with
  | nil => cases h
  | cons t ts ih =>
      rw [boundNamesOfAll]
      rcases List.mem_cons.mp h with rfl | h
      · exact List.subset_append_left _ _
      · exact List.Subset.trans (ih h) (List.subset_append_right _ _)

/-- The names that are bound in a part are bound in the whole. -/
theorem boundNames_subset_of_mem_parts {s t : Tree} (h : s ∈ t.parts) :
    s.boundNames ⊆ t.boundNames := by
  intro id hid
  have hlist : ∀ {ts : List Tree}, s ∈ ts → id ∈ boundNamesOfAll ts := fun hs =>
    boundNames_subset_of_mem hs hid
  cases t <;> simp [parts] at h <;> simp [boundNames] <;> grind

theorem boundByTarget_subset_of_mem {s : Tree} {ts : List Tree} (h : s ∈ ts) :
    boundByTarget s ⊆ boundByTargets ts := by
  induction ts with
  | nil => cases h
  | cons t ts ih =>
      rw [boundByTargets]
      rcases List.mem_cons.mp h with rfl | h
      · exact List.subset_append_left _ _
      · exact List.Subset.trans (ih h) (List.subset_append_right _ _)

section Keep

variable {record : String} {keep : String → Bool}

/-- The lookups in a tree that stands at a place are those by scopes exactly if the names to keep
are those that stay there. -/
def LookedUp (record : String) (keep : String → Bool) (p : Place) (t : Tree) : Prop :=
  withLookups record keep t = resolved record p t ↔ ∀ o ∈ occurrences p t, keep o.name = o.stays

theorem allWithLookups_eq_iff {ts : List Tree} {p : Place}
    (h : ∀ t ∈ ts, ∀ q : Place, q.isTarget = p.isTarget → LookedUp record keep q t) :
    allWithLookups record keep ts = allResolved record p ts ↔
      ∀ o ∈ occurrencesInAll p ts, keep o.name = o.stays := by
  induction ts generalizing p with
  | nil => simp [allWithLookups, allResolved, occurrencesInAll]
  | cons t ts ih =>
      have hfirst : LookedUp record keep p t := h t List.mem_cons_self p rfl
      have hrest := ih (p := p.next) fun s hs => h s (List.mem_cons_of_mem t hs)
      rw [LookedUp] at hfirst
      rw [allWithLookups, allResolved, List.cons.injEq, hfirst, hrest, occurrencesInAll,
        List.forall_mem_append]

/-- Lookups with a list of names to keep are those by scopes exactly if the list agrees with the
scope of every occurrence; what is being bound is in the list. -/
theorem withLookups_eq_iff (t : Tree) (p : Place) (hbound : ∀ id ∈ t.boundNames, keep id = true)
    (htarget : p.isTarget = true → ∀ id ∈ boundByTarget t, keep id = true) :
    LookedUp record keep p t := by
  induction t using induction_on_parts generalizing p with
  | step t ih =>
      have ihp : ∀ s ∈ t.parts, ∀ p : Place,
          (p.isTarget = true → ∀ id ∈ boundByTarget s, keep id = true) →
          LookedUp record keep p s := fun s hs p =>
        ih s hs p fun id hid => hbound id (boundNames_subset_of_mem_parts hs hid)
      have ihv : ∀ s ∈ t.parts, ∀ bound, LookedUp record keep (.value bound) s :=
        fun s hs bound => ihp s hs _ nofun
      have ihall : ∀ ts ⊆ t.parts, ∀ p : Place, p.isTarget = false →
          (allWithLookups record keep ts = allResolved record p ts ↔
            ∀ o ∈ occurrencesInAll p ts, keep o.name = o.stays) := by
        intro ts hts p hp
        refine allWithLookups_eq_iff fun s hs q hq => ihp s (hts hs) q ?_
        rw [hq, hp]
        nofun
      have ihvs : ∀ ts ⊆ t.parts, ∀ bound,
          (allWithLookups record keep ts = allResolved record (.value bound) ts ↔
            ∀ o ∈ occurrencesInAll (.value bound) ts, keep o.name = o.stays) :=
        fun ts hts bound => ihall ts hts _ rfl
      unfold LookedUp at ihv ⊢
      cases t with
      | name id =>
          by_cases hplace : p.isTarget = true
          · have hkeep := htarget hplace id List.mem_cons_self
            simp [withLookups, resolved, occurrences, hplace, hkeep]
          · by_cases hkeep : keep id = true <;> by_cases hstays : stays p.bound id = true <;>
              simp [withLookups, resolved, occurrences, hplace, hkeep, hstays, lookup,
                Occurrence.stays]
      | member value id =>
          rw [withLookups, resolved, occurrences]
          rcases lookupMember_cases record keep value (withLookups record keep value) id
            with ⟨root, rest, hpath, hkeep, hlookup⟩ | ⟨hkeep, hmember⟩ <;>
          rcases lookupMember_cases record (stays p.bound) value (resolved record p.inner value) id
            with ⟨root', rest', hpath', hstays, hlookup'⟩ | ⟨hstays, hmember'⟩
          · obtain ⟨_, _, hnames, -, hoccurs⟩ := exists_of_path? hpath
            cases hnames
            cases hpath.symm.trans hpath'
            rw [hlookup, hlookup', Place.inner, hoccurs]
            simp [Occurrence.stays, hkeep, hstays]
          · obtain ⟨_, _, hnames, -, hoccurs⟩ := exists_of_path? hpath
            cases hnames
            rw [hlookup, hmember', Place.inner, hoccurs]
            simp [lookup, Occurrence.stays, hkeep, hstays root rest hpath]
          · obtain ⟨_, _, hnames, -, hoccurs⟩ := exists_of_path? hpath'
            cases hnames
            rw [hmember, hlookup', Place.inner, hoccurs]
            simp [lookup, Occurrence.stays, hstays, hkeep root' rest' hpath']
          · rw [hmember, hmember', member.injEq, and_iff_left rfl]
            exact ihv value List.mem_cons_self _
      | starred value =>
          rw [withLookups, resolved, occurrences, starred.injEq]
          exact ihp value List.mem_cons_self p.next htarget
      | tuple items =>
          rw [withLookups, resolved, occurrences, tuple.injEq]
          exact allWithLookups_eq_iff fun s hs q hq => ihp s hs q fun hplace id hid =>
            htarget (hq ▸ hplace) id (boundByTarget_subset_of_mem hs hid)
      | list items =>
          rw [withLookups, resolved, occurrences, list.injEq]
          exact allWithLookups_eq_iff fun s hs q hq => ihp s hs q fun hplace id hid =>
            htarget (hq ▸ hplace) id (boundByTarget_subset_of_mem hs hid)
      | clause isAsync target source conditions =>
          have hbinds : LookedUp record keep (.target p.bound) target :=
            ihp target List.mem_cons_self _ fun _ id hid => hbound id (by simp [boundNames, hid])
          rw [LookedUp] at hbinds
          have hsource := ihv source (by simp [parts]) p.source
          have hconditions := ihvs conditions (fun s hs => by simp [parts, hs]) p.bound
          rw [withLookups, resolved, occurrences, clause.injEq, and_iff_right rfl, hbinds, hsource,
            Place.inner, hconditions, List.forall_mem_append, List.forall_mem_append, and_assoc]
      | lambda parameters body =>
          simp only [parts, List.forall_mem_cons] at ihv ihvs
          simp [withLookups, resolved, occurrences, ihv, ihvs, Place.inner, Place.body, or_imp,
            forall_and]
      | comprehension kind element clauses =>
          have hclauses := ihall clauses (List.subset_cons_self _ _) (p.clauses clauses) rfl
          rw [withLookups, resolved, occurrences, comprehension.injEq, and_iff_right rfl, hclauses,
            List.forall_mem_append, Place.element, ihv element List.mem_cons_self]
      | _ =>
        simp only [parts, List.forall_mem_cons] at ihv ihvs
        simp [withLookups, resolved, occurrences, ihv, ihvs, Place.inner, or_imp, forall_and]

end Keep

/-! ## Compiled formulas -/

/-- Every name that is not always there is bound somewhere in the formula exactly if it is bound at
each place where it occurs. -/
def WellScoped (t : Tree) : Prop := ∀ o ∈ occurrences (.value t.assignedNames) t,
  isAlwaysThere o.name = true ∨ (o.isBound = true ↔ o.name ∈ t.boundNames)

/-- A formula is compiled by the scopes of its names exactly if it is well scoped. -/
theorem compiledTree_eq_iff (record : String) (t : Tree) :
    compiledTree record t = resolved record (.value t.assignedNames) t ↔ t.WellScoped := by
  have hlooked : LookedUp record (fun id => isAlwaysThere id || t.boundNames.contains id)
      (.value t.assignedNames) t :=
    withLookups_eq_iff t _ (fun id hid => by simp [hid]) nofun
  refine hlooked.trans (forall₂_congr fun o _ => ?_)
  change (isAlwaysThere o.name || t.boundNames.contains o.name) =
    (isAlwaysThere o.name || o.isBound) ↔ _
  rw [← List.contains_iff_mem]
  generalize isAlwaysThere o.name = there, o.isBound = bound, t.boundNames.contains o.name = kept
  cases there <;> cases bound <;> cases kept <;> simp

end Tree

/-- What compiles is an expression whose lookups can be written. -/
theorem compile_eq_ok {code parameters text : String} :
    compile code parameters = .ok text ↔ ∃ t shown, expressionOf (trim code.toList) = .ok t ∧
      (compiledTree (recordName parameters) t).depth ≤ nestingLimit ∧
      (compiledTree (recordName parameters) t).toText = some shown ∧
      text = "lambda " ++ parameters ++ ": " ++ shown := by
  unfold compile
  cases expressionOf (trim code.toList) with
  | error problem => simp
  | ok t =>
      by_cases hdepth : nestingLimit < (compiledTree (recordName parameters) t).depth
      · have hle : ¬ (compiledTree (recordName parameters) t).depth ≤ nestingLimit := by omega
        simp [hdepth, hle]
      · cases hshown : (compiledTree (recordName parameters) t).toText with
        | none => simp [hdepth, hshown]
        | some shown => simp [hdepth, hshown, Nat.not_lt.mp hdepth, eq_comm]

/-- The body of a compiled formula is the formula with every name looked up that is neither bound at
its place nor always there, exactly if the formula is well scoped.  Then every occurrence of a name
stays or becomes one lookup, and what is free in the body is always there, is the function that
looks up, or is the record. -/
theorem compile_scoped_iff {code parameters text : String}
    (h : compile code parameters = .ok text) :
    ∃ t body shown, expressionOf (trim code.toList) = .ok t ∧
      body = compiledTree (recordName parameters) t ∧ body.toText = some shown ∧
      text = "lambda " ++ parameters ++ ": " ++ shown ∧
      (body = t.resolved (recordName parameters) (.value t.assignedNames) ↔ t.WellScoped) ∧
      (t.WellScoped →
        body.occurrences (.value body.assignedNames) =
          (t.occurrences (.value t.assignedNames)).flatMap
            (Tree.Occurrence.resolved (recordName parameters)) ∧
        ∀ o ∈ body.occurrences (.value body.assignedNames),
          o.isBound = true ∨ isAlwaysThere o.name = true ∨ o.name = "_path" ∨
            o.name = recordName parameters) := by
  obtain ⟨t, shown, hread, -, hshown, htext⟩ := compile_eq_ok.mp h
  have hiff := Tree.compiledTree_eq_iff (recordName parameters) t
  refine ⟨t, _, shown, hread, rfl, hshown, htext, hiff, fun hscoped => ?_⟩
  have hoccurs := Tree.occurrences_resolved (recordName parameters) (.value t.assignedNames) t
  rw [hiff.mpr hscoped, Tree.assignedNames_resolved, hoccurs]
  refine ⟨rfl, fun o ho => ?_⟩
  obtain ⟨o', -, ho⟩ := List.mem_flatMap.mp ho
  unfold Tree.Occurrence.resolved at ho
  split at ho
  · rename_i hstays
    obtain rfl := List.mem_singleton.mp ho
    rw [Tree.Occurrence.stays, Tree.stays, Bool.or_eq_true] at hstays
    exact hstays.elim (fun h => .inr (.inl h)) .inl
  · simp only [List.mem_cons, List.not_mem_nil, or_false] at ho
    rcases ho with rfl | rfl
    · exact .inr (.inr (.inl rfl))
    · exact .inr (.inr (.inr rfl))

/-! ### Formulas with names of their own -/

instance (t : Tree) : Decidable t.WellScoped :=
  inferInstanceAs (Decidable (∀ o ∈ t.occurrences (.value t.assignedNames),
    isAlwaysThere o.name = true ∨ (o.isBound = true ↔ o.name ∈ t.boundNames)))

theorem exists_of_any (cs : List Char) (p : Tree → Bool)
    (h : (expressionOf cs).toOption.any p = true) : ∃ t, expressionOf cs = .ok t ∧ p t = true := by
  cases hread : expressionOf cs with
  | error problem =>
      rw [hread] at h
      cases h
  | ok t =>
      rw [hread] at h
      exact ⟨t, rfl, h⟩

/-- In a comprehension the name of an item stays, and its source is looked up with its members. -/
theorem compile_scoped_iff_order :
    compile "sum(i.net for i in order.items) * rate" "record" = .ok
      "lambda record: sum((i.net for i in _path(record, 'order.items'))) * _path(record, 'rate')" ∧
    ∃ t, expressionOf (trim "sum(i.net for i in order.items) * rate".toList) = .ok t ∧
      t.WellScoped ∧
      compiledTree "record" t = t.resolved "record" (.value t.assignedNames) := by
  have hcompile : compile "sum(i.net for i in order.items) * rate" "record" = .ok
      "lambda record: sum((i.net for i in _path(record, 'order.items'))) * _path(record, 'rate')" :=
    eq_ok_of_toOption (by decide +kernel)
  obtain ⟨t, hread, ht⟩ := exists_of_any
    (trim "sum(i.net for i in order.items) * rate".toList) (fun t => decide t.WellScoped)
    (by decide +kernel)
  obtain ⟨t', body, shown, hread', rfl, -, -, hiff, -⟩ := compile_scoped_iff hcompile
  cases hread.symm.trans hread'
  have hrecord : recordName "record" = "record" := by decide
  rw [hrecord] at hiff
  exact ⟨hcompile, t, hread, of_decide_eq_true ht, hiff.mpr (of_decide_eq_true ht)⟩

/-- A parameter for the remaining arguments is bound in the body of its function and looked up there
all the same. -/
theorem compile_unscoped_rest :
    compile "(lambda *a: a)(x)" "record" =
      .ok "lambda record: (lambda *a: _path(record, 'a'))(_path(record, 'x'))" ∧
    ∃ t, expressionOf (trim "(lambda *a: a)(x)".toList) = .ok t ∧
      (∃ o ∈ t.occurrences (.value t.assignedNames), o.name = "a" ∧ o.isBound = true) ∧
      compiledTree "record" t ≠ t.resolved "record" (.value t.assignedNames) := by
  refine ⟨eq_ok_of_toOption (by decide +kernel), ?_⟩
  obtain ⟨t, hread, ht⟩ := exists_of_any (trim "(lambda *a: a)(x)".toList)
    (fun t => decide ((∃ o ∈ t.occurrences (.value t.assignedNames),
      o.name = "a" ∧ o.isBound = true) ∧ ¬ t.WellScoped)) (by decide +kernel)
  obtain ⟨hbound, hscoped⟩ := of_decide_eq_true ht
  exact ⟨t, hread, hbound, fun h => hscoped ((Tree.compiledTree_eq_iff "record" t).mp h)⟩

end Entity.Formula
