import Entity.Proofs.Lifecycle.Firing
import Entity.Proofs.Lifecycle.Passive

/-!
# Hooks that fail

A hook asks all its services before it puts anything.  Main statement: a hook that fails has changed
nothing and called nothing, unless the handler of the change has failed that its put has made; a
hook that has nothing to write changes and calls nothing either; one that writes makes one put; and
a search never writes.
-/

namespace Entity

open Run

/-! ## One put -/

/-- The hook makes one put in storage `i`, of the data of the instance `x` with the answer filled
in, once the services have answered and led to the world `reached`; the put writes the data and
calls the handler of the change once. -/
structure Hook.PutsOnce (h : Hook) (subject : Value) (w : World) (x : Instance)
    (fields : Entries String Value) (i : Nat) (reached : World) : Prop where
  resolved : exec (resolveInstance subject) w = (.ok x, w)
  writes : h.Writes w.definition fields
  aside : w.Untouched reached
  serves : w.Serves i
  puts : ∀ invoke, exec (h.run invoke subject) w = exec ((fun _ => fields) <$>
    put invoke (.text x.id) (.map (Entries.merge x.data fields))) reached
  calls : CallsOnce (h.run · subject) w
    (Entries.get? (w.definition.eventName "Updated") w.definition.events)
    [Change.toValue ⟨stored? w.definition (w.store i) x.id,
      w.definition.made x.id (Entries.merge x.data fields)⟩, w.hooks]
    (reached.storing i x.id (Entries.merge x.data fields)) fields

/-- The hook changes nothing and calls nothing; what it answers, if it does, is not to be
written. -/
structure Hook.Writeless (h : Hook) (subject : Value) (w : World)
    (r : Except Failure (Entries String Value)) (w' : World) : Prop where
  aside : w.Untouched w'
  runs : ∀ invoke, exec (h.run invoke subject) w = (r, w')
  nothing : ∀ fields, r = .ok fields → ¬ h.Writes w.definition fields

namespace Run

/-- Putting data under a text is refused whatever functions do, or the data can be written. -/
theorem put_text_cases (w : World) (id : String) (es : Entries String Value) :
    (∃ i, w.Serves i ∧ storableIdentity (.text id) = .ok id) ∨
      ∃ e, Idle (put · (.text id) (.map es)) w (.error e) := by
  rcases write_cases w (.text id) (.map es) with ⟨i, key, es', hw, hid, -⟩ | hno |
    ⟨i, e, hw, hid⟩ | ⟨i, key, e, -, -, he⟩
  · left
    obtain ⟨htext, -, -⟩ := storableIdentity_eq_ok hid
    cases htext
    exact ⟨i, hw, hid⟩
  · right
    exact ⟨_, fun invoke => (World.unusable_iff.mpr hno).put invoke _ _⟩
  · exact Or.inr ⟨e, fun invoke => exec_put_of_not_storable invoke hw hid _⟩
  · rw [payloadOf_map] at he
    cases he

end Run

namespace Hook

variable {w : World} {subject : Value}

/-- **A hook writes nothing, or it makes one put.** -/
theorem writeless_or_putsOnce (h : Hook) (subject : Value) (w : World) :
    (∃ r w', h.Writeless subject w r w') ∨
      ∃ x fields i reached, h.PutsOnce subject w x fields i reached := by
  have hworld := exec_resolveInstance_world subject w
  rcases hx : exec (resolveInstance subject) w with ⟨found, w'⟩
  rw [hx] at hworld
  obtain rfl : w' = w := hworld
  cases found with
  | error e => exact Or.inl ⟨_, w', .refl w', h.exec_run_of_error hx, nofun⟩
  | ok x =>
      cases h.course hx with
      | failed haside hruns => exact Or.inl ⟨_, _, haside, hruns, nofun⟩
      | answered hnot haside hruns =>
          refine Or.inl ⟨_, _, haside, hruns, fun fields heq => ?_⟩
          obtain rfl := Except.ok.inj heq
          exact hnot
      | @puts fields reached hwrites haside hruns =>
          -- the put may still be refused, and then nothing was written after all
          rcases put_text_cases reached x.id (Entries.merge x.data fields) with
            ⟨i, hserves, hid⟩ | ⟨e, hrefused⟩
          · right
            refine ⟨x, fields, i, reached, hx, hwrites, haside, hserves.congr haside.symm.runtime,
              hruns, ?_⟩
            apply callsOnce_of_answer
            intro invoke
            have hgoes := Lifecycle.goesOn reached.definition .updated invoke reached i _ x.id
              (Entries.merge x.data fields) rfl hserves hid
            have hdefinition : reached.definition = w'.definition :=
              congrArg Runtime.definition haside.runtime
            have hhooks : reached.hooks = w'.hooks := by rw [World.hooks, World.hooks, hdefinition]
            rw [hdefinition, haside.store_eq, hhooks] at hgoes
            show exec (h.run invoke subject) w' = _
            rw [hruns, exec_map, hgoes, ← exec_map, Functor.map_map]
            rfl
          · have hfails : ∀ invoke, exec (h.run invoke subject) w' = (.error e, reached) := by
              intro invoke
              rw [hruns, exec_map, hrefused invoke]
              rfl
            exact Or.inl ⟨_, reached, haside, hfails, nofun⟩

theorem Writeless.callsNothing {h : Hook} {r : Except Failure (Entries String Value)} {w' : World}
    (hw : h.Writeless subject w r w') : CallsNothing (h.run · subject) w := by
  intro invoke invoke'
  show exec (h.run invoke subject) w = exec (h.run invoke' subject) w
  rw [hw.runs, hw.runs]

/-- Running a hook is atomic: what it changes, it changes by one put. -/
structure Atomic (h : Hook) (subject : Value) (w : World) : Prop where
  /-- A failure is that of the handler of the change, called after the write, or nothing was changed
  and nothing called. -/
  failure : ∀ invoke e w', exec (h.run invoke subject) w = (.error e, w') →
    (w.Untouched w' ∧ CallsNothing (h.run · subject) w) ∨
    ∃ x fields i reached f, h.PutsOnce subject w x fields i reached ∧
      Entries.get? (w.definition.eventName "Updated") w.definition.events = some f ∧
      exec (invoke f [Change.toValue ⟨stored? w.definition (w.store i) x.id,
          w.definition.made x.id (Entries.merge x.data fields)⟩, w.hooks])
        (reached.storing i x.id (Entries.merge x.data fields)) = (.error e, w')
  /-- There is nothing to write. -/
  silent : ∀ invoke fields w', exec (h.run invoke subject) w = (.ok fields, w') →
    ¬ h.Writes w.definition fields → w.Untouched w' ∧ CallsNothing (h.run · subject) w
  writing : ∀ invoke fields w', exec (h.run invoke subject) w = (.ok fields, w') →
    h.Writes w.definition fields → ∃ x i reached, h.PutsOnce subject w x fields i reached

theorem Writeless.atomic {h : Hook} {r : Except Failure (Entries String Value)} {w' : World}
    (hw : h.Writeless subject w r w') : h.Atomic subject w := by
  constructor
  · intro invoke e w'' hrun
    rw [hw.runs] at hrun
    cases hrun
    exact Or.inl ⟨hw.aside, hw.callsNothing⟩
  · intro invoke fields w'' hrun _
    rw [hw.runs] at hrun
    cases hrun
    exact ⟨hw.aside, hw.callsNothing⟩
  · intro invoke fields w'' hrun hwrites
    rw [hw.runs] at hrun
    cases hrun
    exact absurd hwrites (hw.nothing fields rfl)

theorem PutsOnce.atomic {h : Hook} {x : Instance} {fields : Entries String Value} {i : Nat}
    {reached : World} (hw : h.PutsOnce subject w x fields i reached) : h.Atomic subject w := by
  -- what is answered is what was put
  have hanswer : ∀ invoke fields' w', exec (h.run invoke subject) w = (.ok fields', w') →
      fields' = fields := by
    intro invoke fields' w' hrun
    rw [hw.puts, exec_map] at hrun
    have hfirst := congrArg Prod.fst hrun
    obtain ⟨y, -, heq⟩ := map_eq_ok.mp hfirst
    exact heq.symm
  constructor
  · intro invoke e w' hrun
    right
    have hcalls := hw.calls invoke
    rw [hrun] at hcalls
    cases hhandler : Entries.get? (w.definition.eventName "Updated") w.definition.events with
    | none =>
        rw [hhandler] at hcalls
        cases congrArg Prod.fst hcalls
    | some f =>
        rw [hhandler] at hcalls
        refine ⟨x, fields, i, reached, f, hw, rfl, ?_⟩
        dsimp only at hcalls
        rw [exec_map] at hcalls
        rcases hcall : exec (invoke f _) _ with ⟨r, w''⟩
        rw [hcall] at hcalls
        cases r with
        | ok a => cases congrArg Prod.fst hcalls
        | error e' =>
            cases hcalls
            rfl
  · intro invoke fields' w' hrun hnot
    obtain rfl := hanswer invoke fields' w' hrun
    exact absurd hw.writes hnot
  · intro invoke fields' w' hrun _
    obtain rfl := hanswer invoke fields' w' hrun
    exact ⟨x, i, reached, hw⟩

end Hook

/-! ## Searches -/

/-- All that happened, if anything, is that a match was asked for. -/
def World.Searched (w w' : World) : Prop :=
  w' = w ∨ ∃ v target, w' = { w with journal := w.journal ++ [.grounded v target] }

namespace Run

theorem searched_ground (v : Value) (target : String) (w : World) :
    w.Searched (exec (ground v target) w).2 := by
  rw [ground, exec_bind_ok (exec_get w)]
  cases hground : w.services.ground with
  | none => exact Or.inl rfl
  | some answer =>
      right
      refine ⟨v, target, ?_⟩
      show (exec (note (.grounded v target) >>= fun _ => ofResult (answer v target)) w).2 = _
      rw [exec_bind]
      dsimp only [note, exec_modify]
      rw [exec_ofResult]

/-- **A search writes nothing**: it looks up the instance and the field, and asks for one match. -/
theorem searched_search (subject : Value) (field : String) (w : World) :
    w.Searched (exec (search subject field) w).2 := by
  have hworld := exec_resolveInstance_world subject w
  rcases hx : exec (resolveInstance subject) w with ⟨found, w'⟩
  rw [hx] at hworld
  obtain rfl : w' = w := hworld
  cases found with
  | error e =>
      rw [search, exec_bind_error hx]
      exact Or.inl rfl
  | ok x =>
      rw [search, exec_bind_ok hx, exec_bind_ok (exec_definition w')]
      split
      · exact searched_ground _ _ w'
      · split
        · exact searched_ground _ _ w'
        · exact Or.inl rfl

end Run

/-- **Hooks are atomic**, in every world and for whatever they are given; a search, which takes no
functions to call, leaves all as it was but for the match that it has asked for. -/
theorem hooks_atomic (w : World) (subject : Value) :
    (∀ h : Hook, h.Atomic subject w) ∧
      ∀ field, w.Searched (exec (search subject field) w).2 := by
  constructor
  · intro h
    rcases h.writeless_or_putsOnce subject w with ⟨r, w', hw⟩ | ⟨x, fields, i, reached, hw⟩
    · exact hw.atomic
    · exact hw.atomic
  · intro field
    exact searched_search subject field w

end Entity
