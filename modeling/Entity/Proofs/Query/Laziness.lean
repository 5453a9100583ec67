import Entity.Query.Session
import Mathlib.Algebra.Order.Group.Multiset
import Mathlib.Tactic.Common

/-!
# Collections are lazy refinements of lists

A collection applies a chain of stages to a source: it keeps the items that meet criteria or that a
function accepts, and replaces items by what functions answer.  Here this is described twice without
collections.  Stage by stage, every stage is applied to all items before the next one is; item by
item, each item of the source passes through all stages before the next one is read.  The functions
may be any: what they answer, their failures and the calls that they note are a parameter.

Main statement: a collection is evaluated in the second order, up to the first failure or to the
item that is looked for, on the source as it is then; and where no function fails, the result is
that of the first order, with the same calls.
-/

namespace Entity

/-! ## Chains -/

/-- What is done with the items of a collection. -/
inductive Stage where
  | meeting (criteria : Entries String Value)
  | filtered (test : Value)
  | mapped (f : Value)
  | expanded (f : Value)

namespace Collection

/-- The stages of a collection, the one next to the source first. -/
def stages : Collection → List Stage
  | items _ | live _ | instancesOf _ | followed _ => []
  | meeting criteria source => source.stages ++ [.meeting criteria]
  | filtered test source => source.stages ++ [.filtered test]
  | mapped f source => source.stages ++ [.mapped f]
  | expanded f source => source.stages ++ [.expanded f]

/-- What the source of a collection holds. -/
def contents (s : Sources) : Collection → List Value
  | items vs => vs
  | live i => s.listAt i
  | instancesOf type => (s.graph.ofType type).map Instance.toValue
  | followed references => (s.graph.followed references).map Instance.toValue
  | meeting _ source | filtered _ source | mapped _ source | expanded _ source => source.contents s

end Collection

/-! ## Stage by stage -/

namespace Reading

variable {α β : Type}

/-- Go on with a result. -/
def andThen (r : Reading α) (k : α → Reading β) : Reading β :=
  match r.2 with
  | .ok a => (r.1 ++ (k a).1, (k a).2)
  | .error e => (r.1, .error e)

/-- Read items, and then those of another reading. -/
def append (r r' : Reading (List Value)) : Reading (List Value) :=
  r.andThen fun ws => r'.andThen fun ws' => ([], .ok (ws ++ ws'))

/-- Two readings have the same result, if any, and then the same calls in some order. -/
structure Agrees (r r' : Reading α) : Prop where
  result : ∀ a, r.2 = .ok a ↔ r'.2 = .ok a
  calls : ∀ a, r.2 = .ok a → r.1.Perm r'.1

end Reading

/-- What a value answers when it is called on an item. -/
def answerOn (call : Calling) (f item : Value) : Reading Value :=
  match f with
  | .function f => call f item
  | f => ([], .error (Value.badType ("'" ++ f.kindName ++ "' object is not callable")))

/-- The items that a stage makes of an item. -/
def Stage.onItem (call : Calling) (stage : Stage) (v : Value) : Reading (List Value) :=
  match stage with
  | meeting criteria => ([], .ok (if meets v criteria then [v] else []))
  | filtered test =>
    (answerOn call test v).andThen fun b => ([], .ok (if b.isTruthy then [v] else []))
  | mapped f => (answerOn call f v).andThen fun w => ([], .ok [w])
  | expanded f => (answerOn call f v).andThen fun w => ([], itemsOf w)

/-- What is made of all items, in order, until one fails. -/
def eachItem (f : Value → Reading (List Value)) : List Value → Reading (List Value)
  | [] => ([], .ok [])
  | v :: vs => (f v).append (eachItem f vs)

/-- The items after stages, each of them applied to all items before the next. -/
def eagerly (call : Calling) : List Stage → List Value → Reading (List Value)
  | [], vs => ([], .ok vs)
  | stage :: stages, vs => (eachItem (stage.onItem call) vs).andThen (eagerly call stages)

/-! ## Item by item -/

/-- What an item makes happen on its way through stages, all that comes of it included. -/
def passThrough (call : Calling) : List Stage → Value → List Emission
  | [], v => [.item v]
  | stage :: stages, v =>
    (stage.onItem call v).1.map .happened ++ match (stage.onItem call v).2 with
      | .ok ws => ws.flatMap (passThrough call stages)
      | .error e => [.failed e]

/-- What happens when the items of the source pass through the stages one by one. -/
def Collection.trace (s : Sources) (c : Collection) (call : Calling) : List Emission :=
  (c.contents s).flatMap (passThrough call c.stages)

/-- The start of a run, up to its first failure. -/
def upToFailure : List Emission → List Emission
  | [] => []
  | .failed e :: _ => [.failed e]
  | m :: run => m :: upToFailure run

/-- The start of a run, up to the first item with a property. -/
def upToItem (p : Value → Bool) : List Emission → List Emission
  | [] => []
  | .item v :: run => .item v :: if p v then [] else upToItem p run
  | m :: run => m :: upToItem p run

/-- The calls in a run. -/
def callsIn (run : List Emission) : Journal :=
  run.filterMap fun
    | .happened h => some h
    | _ => none

/-- The items in a run. -/
def itemsIn (run : List Emission) : List Value :=
  run.filterMap fun
    | .item v => some v
    | _ => none

/-- The result, unless the run fails. -/
def outcome {α : Type} (run : List Emission) (a : α) : Except Failure α :=
  match run.findSome? fun
      | .failed e => some e
      | _ => none with
  | some e => .error e
  | none => .ok a

/-- The calls in a run and, after each item, those of a function that is called on the item. -/
def testedIn (call : Calling) (test : Value) (run : List Emission) : Journal :=
  run.flatMap fun
    | .happened h => [h]
    | .item v => (answerOn call test v).1
    | .failed _ => []

/-- A function is called on an item: whether the answer counts as true. -/
def verdict (call : Calling) (test v : Value) : Except Failure Bool :=
  (answerOn call test v).2.map Value.isTruthy

/-- The function does not reject the item: it fails, or its answer counts as true. -/
def notRejected (call : Calling) (test v : Value) : Bool :=
  match verdict call test v with
  | .ok b => b
  | .error _ => true

/-! ## Runs up to a failure -/

theorem upToFailure_append (xs : List Emission) {ys zs : List Emission}
    (h : upToFailure ys = upToFailure zs) : upToFailure (xs ++ ys) = upToFailure (xs ++ zs) := by
  induction xs with
  | nil => exact h
  | cons m xs ih =>
      cases m with
      | failed e => rfl
      | happened happening => simp only [List.cons_append, upToFailure, ih]
      | item v => simp only [List.cons_append, upToFailure, ih]

/-- What stands for an emission when items are replaced. -/
def replaced (k : Value → List Emission) : Emission → List Emission
  | .item v => k v
  | m => [m]

/-- Replacing the items of a run, up to a failure. -/
theorem upToFailure_onItems (k : Value → List Emission) (run : List Emission) :
    upToFailure (onItems k run) = upToFailure (run.flatMap (replaced k)) := by
  induction run with
  | nil => rfl
  | cons m run ih =>
      cases m with
      | failed e => rfl
      | happened h => simp only [onItems, List.flatMap_cons, replaced, List.singleton_append,
          upToFailure, ih]
      | item v => exact upToFailure_append (k v) ih

/-- What comes after a failure does not matter for that. -/
theorem upToFailure_flatMap (k : Value → List Emission) {run run' : List Emission}
    (h : upToFailure run = upToFailure run') :
    upToFailure (run.flatMap (replaced k)) = upToFailure (run'.flatMap (replaced k)) := by
  have hself : ∀ run : List Emission, upToFailure ((upToFailure run).flatMap (replaced k)) =
      upToFailure (run.flatMap (replaced k)) := by
    intro run
    induction run with
    | nil => rfl
    | cons m run ih =>
        cases m with
        | failed e => rfl
        | happened h => exact upToFailure_append [.happened h] ih
        | item v => exact upToFailure_append (k v) ih
  rw [← hself run, h, hself run']

/-! ## The trace of a collection -/

/-- What a stage emits for an item. -/
def Stage.emit (call : Calling) (stage : Stage) (v : Value) : List Emission :=
  passThrough call [stage] v

theorem callOn_eq (call : Calling) (f v : Value) (k : Value → List Emission) :
    callOn f v k call = (answerOn call f v).1.map .happened ++ match (answerOn call f v).2 with
      | .ok w => k w
      | .error e => [.failed e] := by
  cases f <;> rfl

theorem flatMap_passThrough_nil (call : Calling) (vs : List Value) :
    vs.flatMap (passThrough call []) = vs.map .item :=
  List.map_eq_flatMap.symm

/-- A stage that calls a function on the item. -/
theorem Stage.emit_of_onItem {call : Calling} {stage : Stage} {v f : Value}
    {k : Value → Except Failure (List Value)}
    (h : stage.onItem call v = (answerOn call f v).andThen fun w => ([], k w)) :
    stage.emit call v = callOn f v (fun w => match k w with
      | .ok ws => ws.map .item
      | .error e => [.failed e]) call := by
  rw [emit, passThrough, h, callOn_eq, Reading.andThen]
  cases (answerOn call f v).2 with
  | error e => rfl
  | ok w =>
      simp only [List.append_nil]
      cases k w with
      | error e => rfl
      | ok ws => simp only [flatMap_passThrough_nil]

/-- A collection with one more stage. -/
def Stage.onto (source : Collection) : Stage → Collection
  | meeting criteria => .meeting criteria source
  | filtered test => .filtered test source
  | mapped f => .mapped f source
  | expanded f => .expanded f source

theorem run_onto (s : Sources) (call : Calling) (stage : Stage) (source : Collection) :
    (stage.onto source).run s call = onItems (stage.emit call) (source.run s call) := by
  cases stage with
  | meeting criteria =>
      rw [Stage.onto, Collection.run]
      congr 1
      funext v
      rw [Stage.emit, passThrough, Stage.onItem]
      split <;> rfl
  | filtered test =>
      rw [Stage.onto, Collection.run]
      congr 1
      funext v
      rw [Stage.emit_of_onItem (k := fun b => .ok (if b.isTruthy then [v] else [])) rfl]
      congr 1
      funext b
      dsimp only
      split <;> rfl
  | mapped f =>
      rw [Stage.onto, Collection.run]
      congr 1
      funext v
      exact (Stage.emit_of_onItem (k := fun w => .ok [w]) rfl).symm
  | expanded f =>
      rw [Stage.onto, Collection.run]
      congr 1
      funext v
      exact (Stage.emit_of_onItem (k := itemsOf) rfl).symm

/-- The items that one more stage makes of what has passed through the others. -/
theorem flatMap_passThrough (call : Calling) (stages : List Stage) (stage : Stage) (v : Value) :
    (passThrough call stages v).flatMap (replaced (stage.emit call)) =
      passThrough call (stages ++ [stage]) v := by
  induction stages generalizing v with
  | nil => simp [passThrough, replaced, Stage.emit]
  | cons first stages ih =>
      have hcalls : ∀ calls : Journal, (calls.map Emission.happened).flatMap
          (replaced (stage.emit call)) = calls.map .happened := by
        intro calls
        rw [List.flatMap_map]
        exact List.map_eq_flatMap.symm
      rw [List.cons_append, passThrough, passThrough, List.flatMap_append, hcalls]
      cases (first.onItem call v).2 with
      | error e => rfl
      | ok ws => simp only [List.flatMap_assoc, ih]

/-- The trace with one more stage. -/
theorem trace_onto (s : Sources) (call : Calling) (stage : Stage) (source : Collection) :
    (stage.onto source).trace s call =
      (source.trace s call).flatMap (replaced (stage.emit call)) := by
  have hstages : (stage.onto source).stages = source.stages ++ [stage] := by cases stage <;> rfl
  have hcontents : (stage.onto source).contents s = source.contents s := by cases stage <;> rfl
  rw [Collection.trace, hstages, hcontents, Collection.trace, List.flatMap_assoc]
  simp only [flatMap_passThrough]

/-- What holds of a collection holds of it with one more stage. -/
theorem upToFailure_run_onto {s : Sources} {call : Calling} {source : Collection}
    (h : upToFailure (source.run s call) = upToFailure (source.trace s call)) (stage : Stage) :
    upToFailure ((stage.onto source).run s call) =
      upToFailure ((stage.onto source).trace s call) := by
  rw [run_onto, upToFailure_onItems, upToFailure_flatMap _ h, trace_onto]

/-- Without stages the source is read as it is. -/
theorem run_of_stages_nil (s : Sources) {c : Collection} (h : c.stages = []) (call : Calling) :
    c.run s call = c.trace s call := by
  rw [Collection.trace, h, flatMap_passThrough_nil]
  cases c with
  | items vs => rfl
  | live i => rfl
  | instancesOf type =>
      rw [Collection.run, Collection.contents, List.map_map]
      rfl
  | followed references =>
      rw [Collection.run, Collection.contents, List.map_map]
      rfl
  | _ => simp [Collection.stages] at h

/-- Up to its first failure a run is the trace, by induction on the stages. -/
theorem upToFailure_run (s : Sources) (c : Collection) (call : Calling) :
    upToFailure (c.run s call) = upToFailure (c.trace s call) := by
  induction c with
  | items vs => rw [run_of_stages_nil s rfl call]
  | live i => rw [run_of_stages_nil s rfl call]
  | instancesOf type => rw [run_of_stages_nil s rfl call]
  | followed references => rw [run_of_stages_nil s rfl call]
  | meeting criteria source ih => exact upToFailure_run_onto ih (.meeting criteria)
  | filtered test source ih => exact upToFailure_run_onto ih (.filtered test)
  | mapped f source ih => exact upToFailure_run_onto ih (.mapped f)
  | expanded f source ih => exact upToFailure_run_onto ih (.expanded f)

/-! ## Consumers -/

/-- All items of a run are those up to its first failure. -/
theorem allItems_eq (run : List Emission) : allItems run =
    (callsIn (upToFailure run), outcome (upToFailure run) (itemsIn (upToFailure run))) := by
  induction run with
  | nil => rfl
  | cons m run ih =>
      cases m with
      | failed e => rfl
      | happened h =>
          rw [allItems, ih]
          rfl
      | item v =>
          rw [allItems, ih]
          simp only [outcome, upToFailure, itemsIn, List.findSome?_cons, List.filterMap_cons]
          cases (upToFailure run).findSome? _ <;> rfl

/-- A reader that looks for the first item stops there. -/
theorem firstItem_eq (run : List Emission) : firstItem run =
    (callsIn (upToItem (fun _ => true) (upToFailure run)),
      match (itemsIn (upToFailure run)).head? with
      | some v => .ok v
      | none => outcome (upToFailure run) .null) := by
  induction run with
  | nil => rfl
  | cons m run ih =>
      cases m with
      | failed e => rfl
      | happened h =>
          rw [firstItem, ih]
          rfl
      | item v => rfl

theorem firstItem_append (calls : Journal) (run : List Emission) :
    firstItem (calls.map .happened ++ run) = (calls ++ (firstItem run).1, (firstItem run).2) := by
  induction calls with
  | nil => rfl
  | cons h calls ih =>
      rw [List.map_cons, List.cons_append, firstItem, ih]
      rfl

/-- A reader that tests the items stops at the first one that is not rejected. -/
theorem firstItem_onItems (call : Calling) (test : Value) (run : List Emission) :
    firstItem (onItems (fun v => callOn test v
        (fun b => if b.isTruthy then [.item v] else []) call) run) =
      (testedIn call test (upToItem (notRejected call test) (upToFailure run)),
        match (itemsIn (upToFailure run)).find? (notRejected call test) with
        | some v => (verdict call test v).map fun _ => v
        | none => outcome (upToFailure run) .null) := by
  induction run with
  | nil => rfl
  | cons m run ih =>
      cases m with
      | failed e => rfl
      | happened h =>
          rw [onItems, firstItem, ih]
          rfl
      | item v =>
          have hitems : itemsIn (upToFailure (.item v :: run)) = v :: itemsIn (upToFailure run) :=
            rfl
          have hend : outcome (upToFailure (.item v :: run)) Value.null =
              outcome (upToFailure run) .null := rfl
          have hread : upToItem (notRejected call test) (upToFailure (.item v :: run)) =
              .item v :: if notRejected call test v then []
                else upToItem (notRejected call test) (upToFailure run) := rfl
          rw [onItems, callOn_eq, List.append_assoc, firstItem_append, hitems, List.find?_cons,
            hend, hread]
          cases hanswer : (answerOn call test v).2 with
          | error e =>
              have hverdict : verdict call test v = .error e := by rw [verdict, hanswer]; rfl
              simp [notRejected, hverdict, testedIn, firstItem, Except.map]
          | ok b =>
              have hverdict : verdict call test v = .ok b.isTruthy := by rw [verdict, hanswer]; rfl
              -- an item that is rejected is passed over, with the calls that its test took
              cases hb : b.isTruthy <;>
                simp [notRejected, hverdict, hb, testedIn, firstItem, ih, Except.map]

theorem upToItem_prefix_self (p : Value → Bool) (run : List Emission) : upToItem p run <+: run := by
  induction run with
  | nil => exact List.prefix_rfl
  | cons m run ih =>
      cases m with
      | item v =>
          rw [upToItem]
          split
          · exact List.cons_prefix_cons.mpr ⟨rfl, List.nil_prefix⟩
          · exact List.cons_prefix_cons.mpr ⟨rfl, ih⟩
      | _ => exact List.cons_prefix_cons.mpr ⟨rfl, ih⟩

/-! ## The two orders -/

namespace Reading

variable {α β γ : Type}

theorem andThen_assoc (r : Reading α) (k : α → Reading β) (k' : β → Reading γ) :
    (r.andThen k).andThen k' = r.andThen fun a => (k a).andThen k' := by
  obtain ⟨calls, result⟩ := r
  cases result with
  | error e => rfl
  | ok a =>
      simp only [andThen]
      cases (k a).2 <;> simp

theorem andThen_ok (r : Reading α) : (r.andThen fun a => ([], .ok a)) = r := by
  obtain ⟨calls, result⟩ := r
  cases result <;> simp [andThen]

theorem ok_andThen (a : α) (k : α → Reading β) : andThen ([], .ok a) k = k a := rfl

theorem append_assoc (r r' r'' : Reading (List Value)) :
    (r.append r').append r'' = r.append (r'.append r'') := by
  simp only [append, andThen_assoc, ok_andThen, List.append_assoc]

/-- The calls of a reading that succeeds, in any order, and its result. -/
def summary (r : Reading α) : Option (Multiset Happening × α) :=
  match r.2 with
  | .ok a => some (r.1, a)
  | .error _ => none

theorem summary_andThen (r : Reading α) (k : α → Reading β) : (r.andThen k).summary =
    r.summary.bind fun m => (k m.2).summary.map fun m' => (m.1 + m'.1, m'.2) := by
  obtain ⟨calls, result⟩ := r
  cases result with
  | error e => rfl
  | ok a =>
      simp only [andThen, summary, Option.bind_some]
      cases (k a).2 <;> simp

theorem summary_append (r r' : Reading (List Value)) : (r.append r').summary =
    r.summary.bind fun m => r'.summary.map fun m' => (m.1 + m'.1, m.2 ++ m'.2) := by
  rw [append, summary_andThen]
  simp only [summary_andThen]
  cases r'.summary <;> simp [summary]

theorem agrees_of_summary {r r' : Reading α} (h : r.summary = r'.summary) : r.Agrees r' := by
  obtain ⟨calls, result⟩ := r
  obtain ⟨calls', result'⟩ := r'
  cases result <;> cases result' <;> simp [summary] at h
  · exact ⟨by simp, by simp⟩
  · obtain ⟨hcalls, rfl⟩ := h
    exact ⟨fun _ => Iff.rfl, fun _ _ => hcalls⟩

end Reading

theorem allItems_happened (h : Happening) (run : List Emission) :
    allItems (.happened h :: run) = Reading.andThen ([h], .ok ()) fun _ => allItems run := rfl

theorem allItems_item (v : Value) (run : List Emission) :
    allItems (.item v :: run) = Reading.append ([], .ok [v]) (allItems run) := by
  rw [allItems, Reading.append, Reading.ok_andThen]
  generalize allItems run = r
  obtain ⟨calls, result⟩ := r
  cases result <;> simp [Except.map, Reading.andThen]

/-- Items one after the other are read one after the other. -/
theorem allItems_append (xs ys : List Emission) :
    allItems (xs ++ ys) = (allItems xs).append (allItems ys) := by
  induction xs with
  | nil =>
      rw [List.nil_append, allItems, Reading.append]
      exact (Reading.andThen_ok _).symm
  | cons m xs ih =>
      cases m with
      | failed e => rfl
      | happened h =>
          rw [List.cons_append, allItems_happened, ih, allItems_happened, Reading.append,
            Reading.append, Reading.andThen_assoc]
      | item v =>
          rw [List.cons_append, allItems_item, ih, allItems_item, Reading.append_assoc]

theorem allItems_flatMap (g : Value → List Emission) (vs : List Value) :
    allItems (vs.flatMap g) = eachItem (fun v => allItems (g v)) vs := by
  induction vs with
  | nil => rfl
  | cons v vs ih => rw [List.flatMap_cons, allItems_append, ih, eachItem]

theorem allItems_passThrough (call : Calling) (stage : Stage) (stages : List Stage) (v : Value) :
    allItems (passThrough call (stage :: stages) v) = (stage.onItem call v).andThen
      (eachItem fun w => allItems (passThrough call stages w)) := by
  have hcalls : ∀ (calls : Journal) (run : List Emission), allItems (calls.map .happened ++ run) =
      Reading.andThen (calls, .ok ()) fun _ => allItems run := by
    intro calls run
    induction calls with
    | nil => rfl
    | cons h calls ih =>
        rw [List.map_cons, List.cons_append, allItems_happened, ih]
        rfl
  rw [passThrough, hcalls, Reading.andThen, Reading.andThen]
  cases (stage.onItem call v).2 with
  | error e => simp [allItems]
  | ok ws => simp only [allItems_flatMap]

theorem eachItem_append (f : Value → Reading (List Value)) (vs vs' : List Value) :
    eachItem f (vs ++ vs') = (eachItem f vs).append (eachItem f vs') := by
  induction vs with
  | nil => exact (Reading.andThen_ok _).symm
  | cons v vs ih => rw [List.cons_append, eachItem, ih, eachItem, Reading.append_assoc]

/-- Two stages in the two orders. -/
theorem summary_eachItem_andThen (f g : Value → Reading (List Value)) (vs : List Value) :
    (eachItem (fun v => (f v).andThen (eachItem g)) vs).summary =
      ((eachItem f vs).andThen (eachItem g)).summary := by
  induction vs with
  | nil => rfl
  | cons v vs ih =>
      rw [eachItem, eachItem, Reading.summary_append, ih]
      simp only [Reading.summary_andThen, Reading.summary_append]
      cases (f v).summary with
      | none => rfl
      | some m =>
          cases (eachItem f vs).summary with
          | none => simp
          | some m' =>
              simp only [Option.bind_some, Option.map_some, eachItem_append,
                Reading.summary_append]
              cases (eachItem g m.2).summary with
              | none => rfl
              | some n =>
                  -- the second stage on this item trades places with the first on the later ones
                  cases (eachItem g m'.2).summary with
                  | none => rfl
                  | some n' => simp [add_add_add_comm]

/-- Item by item and stage by stage the same comes out, by induction on the stages. -/
theorem summary_eachItem_passThrough (call : Calling) (stages : List Stage) (vs : List Value) :
    (eachItem (fun v => allItems (passThrough call stages v)) vs).summary =
      (eagerly call stages vs).summary := by
  induction stages generalizing vs with
  | nil =>
      rw [← allItems_flatMap, flatMap_passThrough_nil, allItems_map_item, eagerly]
  | cons stage stages ih =>
      simp only [allItems_passThrough]
      rw [summary_eachItem_andThen, eagerly, Reading.summary_andThen, Reading.summary_andThen]
      simp only [ih]

/-- Where no function fails, a collection holds what the stages make of the whole source. -/
theorem Collection.toList_agrees (s : Sources) (c : Collection) (call : Calling) :
    (c.toList s call).Agrees (eagerly call c.stages (c.contents s)) := by
  apply Reading.agrees_of_summary
  rw [toList, allItems_eq, upToFailure_run, ← allItems_eq, trace, allItems_flatMap,
    summary_eachItem_passThrough]

/-! ## Evaluating in a session -/

/-- Reading notes calls and leaves the session as it is. -/
theorem Query.run_reading {α : Type} (f : Sources → Reading α) (s : Session) :
    run (reading f) s = ((f s.sources).1, (f s.sources).2, s) := by
  unfold reading
  cases hf : f s.sources with
  | mk calls result => cases result <;> simp [run, hf, ofResult] <;> rfl

/-- A collection is evaluated in a session by reading a run. -/
structure Session.Evaluates (s : Session) (c : Collection) (call : Calling)
    (run : List Emission) : Prop where
  /-- Where no function fails, the items are those that the stages make of the whole source. -/
  refines : (c.toList s.sources call).Agrees (eagerly call c.stages (c.contents s.sources))
  /-- All items are read, or the first failure of the run is the failure. -/
  list : Query.run (Query.reading fun sources => c.toList sources call) s =
    (callsIn run, outcome run (itemsIn run), s)
  count : Query.run (Query.reading fun sources => c.count sources call) s =
    (callsIn run, outcome run (itemsIn run).length, s)
  /-- The first item is read with the calls before it, whatever comes after it. -/
  first : Query.run (Query.reading fun sources => c.first sources call) s =
    (callsIn (upToItem (fun _ => true) run), match (itemsIn run).head? with
      | some v => .ok v
      | none => outcome run .null, s)
  /-- So is the first item that a function does not reject, with the calls of the function. -/
  find : ∀ test, Query.run (Query.reading fun sources => c.find sources test call) s =
    (testedIn call test (upToItem (notRejected call test) run),
      match (itemsIn run).find? (notRejected call test) with
      | some v => (verdict call test v).map fun _ => v
      | none => outcome run .null, s)
  /-- The other calls that this takes are the first ones of those for all items. -/
  calls : ∀ p, callsIn (upToItem p run) <+: callsIn run

/-- **Collections are lazy refinements of lists.**  In every session, whatever has become of the
source since the collection was made, a collection is evaluated by reading the run in which the
items of the source pass through all stages one by one, up to the first failure; and the session
stays as it is, so that the next evaluation answers the same. -/
theorem collection_evaluates_lazily (s : Session) (c : Collection) (call : Calling) :
    s.Evaluates c call (upToFailure (c.trace s.sources call)) := by
  have hlist : c.toList s.sources call =
      (callsIn (upToFailure (c.trace s.sources call)),
        outcome (upToFailure (c.trace s.sources call))
          (itemsIn (upToFailure (c.trace s.sources call)))) := by
    rw [Collection.toList, allItems_eq, upToFailure_run]
  refine ⟨c.toList_agrees s.sources call, ?_, ?_, ?_, ?_, ?_⟩
  · rw [Query.run_reading, hlist]
  · rw [Query.run_reading, Collection.count, hlist, outcome, outcome]
    cases List.findSome? _ (upToFailure (c.trace s.sources call)) <;> rfl
  · rw [Query.run_reading, Collection.first, firstItem_eq, upToFailure_run]
  · intro test
    rw [Query.run_reading, Collection.find, Collection.first, Collection.run, firstItem_onItems,
      upToFailure_run]
  · intro p
    exact (upToItem_prefix_self p _).filterMap _

/-- The source grows after the collection was made. -/
example :
    let s : Session :=
      ⟨⟨{ base := "" }, [[.int 1, .int 2, .int 3]]⟩, [("items", .list 0)]⟩
    let doubled : Collection := .mapped (.function (.scaled (.int 2)))
      (.filtered (.function (.above (.int 1))) (.live 0))
    (doubled.toList (Query.run (Query.append "items" (.int 4)) s).2.2.sources).2 =
      .ok [.int 4, .int 6, .int 8] := by
  rfl

end Entity
