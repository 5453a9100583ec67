import Entity.Proofs.Entries
import Entity.Proofs.Lifecycle.Scripted
import Mathlib.Tactic.Common

/-!
# What hooks keep

A hook fills fields of an instance: it looks the instance up, asks services, and puts the data back
with the fields filled in.  It puts all of the data, so it keeps what it has looked up.  Given an
identity, it looks up what is stored; given an instance, it takes the instance as it is, however
old.  Main statement: after whatever calls, a hook stores what it has looked up with its answer
filled in; so it keeps every other field if it is given an identity, and if it is given an instance
exactly if that agrees with the stored one beside the fields that are filled.
-/

namespace Entity

open Run

/-! ## Hooks -/

/-- A hook that fills fields. -/
inductive Hook where
  /-- Resolve the relationship in a field. -/
  | cascade (field : String)
  /-- Fetch the data of every source. -/
  | enrich

/-- Run a hook on what it is given; the fields that it answers, with their values. -/
def Hook.run (invoke : Invoke) (subject : Value) : Hook → Run (Entries String Value)
  | cascade field => (fun v => [(field, v)]) <$> Run.cascade invoke subject field
  | enrich => Run.enrich invoke subject

/-- The field holds a pure link: a relationship for which no service is asked. -/
def Definition.IsPureLink (d : Definition) (field : String) : Prop :=
  ∃ c, Entries.get? field d.cascades = some c ∧ c.operator.isFuzzy = false ∧ c.isGenerative = false

/-- What a hook answers is written: the answer of a service, if it is one; fetched fields, if there
are any. -/
def Hook.Writes (d : Definition) (fields : Entries String Value) : Hook → Prop
  | cascade field => ¬ d.IsPureLink field ∧ fields ≠ [(field, .null)]
  | enrich => fields ≠ []

/-- No handler is called when an instance is put. -/
def World.Quiet (w : World) : Prop :=
  Entries.get? (w.definition.eventName "Updated") w.definition.events = none

namespace World

variable {w w' : World}

theorem Serves.congr {i : Nat} (hw : w.Serves i) (h : w'.runtime = w.runtime) : w'.Serves i := by
  rw [Serves, h]
  exact hw

theorem Quiet.congr (hw : w.Quiet) (h : w'.runtime = w.runtime) : w'.Quiet := by
  rw [Quiet, definition, h]
  exact hw

theorem Untouched.storing (h : w.Untouched w') (i : Nat) (id : String)
    (es : Entries String Value) : (w.storing i id es).Untouched (w'.storing i id es) := by
  refine ⟨h.runtime, ?_⟩
  simp only [World.storing, changeStore, definition, h.runtime, h.stores]

end World

namespace Run

variable {invoke : Invoke} {i : Nat} {w w' : World} {subject : Value}

/-- Putting data makes one change of the storage if no handler is called. -/
theorem exec_put_of_storable (invoke : Invoke) (hw : w.Serves i) (hquiet : w.Quiet) {id : String}
    (hid : storableIdentity (.text id) = .ok id) (es : Entries String Value) :
    exec (put invoke (.text id) (.map es)) w =
      (.ok (w.definition.made id es), w.storing i id es) := by
  have hfire : ∀ payload, exec (fire invoke (w.definition.eventName "Updated") payload)
      (w.storing i id es) = (.ok .null, w.storing i id es) :=
    exec_fire_of_none (w := w.storing i id es) hquiet invoke
  rw [exec_put hw hid, exec_map, hfire]
  rfl

/-- Putting data that nothing may be stored under is refused. -/
theorem exec_put_of_not_storable (invoke : Invoke) (hw : w.Serves i) {id : Value} {e : Failure}
    (hid : storableIdentity id = .error e) (data : Value) :
    exec (put invoke id data) w = (.error e, w) := by
  rw [put, exec_bind_ok (exec_usable hw .put), hid, exec_bind, exec_ofResult]

/-- Putting data back makes one change of the storage if no handler is called, or it is refused. -/
theorem exec_put_of_quiet (invoke : Invoke) (hw : w.Serves i) (hquiet : w.Quiet) (id : String)
    (es : Entries String Value) :
    (∃ e, exec (put invoke (.text id) (.map es)) w = (.error e, w)) ∨
      exec (put invoke (.text id) (.map es)) w =
        (.ok (w.definition.made id es), w.storing i id es) := by
  cases hid : storableIdentity (.text id) with
  | error e => exact Or.inl ⟨e, exec_put_of_not_storable invoke hw hid _⟩
  | ok key =>
      right
      obtain ⟨htext, -, -⟩ := storableIdentity_eq_ok hid
      cases htext
      exact exec_put_of_storable invoke hw hquiet hid es

end Run

/-- What a computation leaves that fills fields of an instance.  Services are asked before anything
is written; `writes` says which answers are to be written, and `fields` how. -/
inductive World.Fills (w : World) (i : Nat) (x : Instance) {α : Type}
    (fields : α → Entries String Value) (writes : α → Prop) : Except Failure α × World → Prop where
  | failed {e : Failure} {w' : World} :
      w.Untouched w' → w.Fills i x fields writes (.error e, w')
  /-- There was nothing to write. -/
  | answered {a : α} {w' : World} :
      ¬ writes a → w.Untouched w' → w.Fills i x fields writes (.ok a, w')
  /-- The data of the instance was put with the answer filled in. -/
  | filled {a : α} {w' : World} :
      writes a → (w.storing i x.id (Entries.merge x.data (fields a))).Untouched w' →
      w.Fills i x fields writes (.ok a, w')

namespace Run

variable {invoke : Invoke} {i : Nat} {w w' : World} {subject : Value} {x : Instance}

/-- A computation that goes on to answer something never answers nothing. -/
theorem ne_none_of_exec_bind {α β : Type} {y : Run α} {f : α → β} {answer : Option β}
    (h : exec (y >>= fun a => pure (some (f a))) w = (.ok answer, w')) : answer ≠ none := by
  rw [exec_bind] at h
  split at h
  · cases h
    exact Option.some_ne_none _
  · cases h

/-- No service is asked exactly for a pure link. -/
theorem cascadeAnswer_eq_none_iff {field : String} {answer : Option Value}
    (h : exec (cascadeAnswer x field) w = (.ok answer, w')) :
    answer = none ↔ w.definition.IsPureLink field := by
  rw [cascadeAnswer, exec_bind_ok (exec_definition w)] at h
  cases hc : Entries.get? field w.definition.cascades with
  | some c =>
      simp only [hc] at h
      split at h
      · rename_i hfuzzy
        refine iff_of_false (ne_none_of_exec_bind h) ?_
        rintro ⟨c', hc', hnot, -⟩
        rw [hc] at hc'
        cases hc'
        rw [hfuzzy] at hnot
        cases hnot
      · rename_i hfuzzy
        split at h
        · rename_i hgenerative
          refine iff_of_false (ne_none_of_exec_bind h) ?_
          rintro ⟨c', hc', -, hnot⟩
          rw [hc] at hc'
          cases hc'
          rw [hgenerative] at hnot
          cases hnot
        · rename_i hgenerative
          cases h
          exact iff_of_true rfl
            ⟨c, hc, eq_false_of_ne_true hfuzzy, eq_false_of_ne_true hgenerative⟩
  | none =>
      have hnot : ¬ w.definition.IsPureLink field := by
        rintro ⟨c, hc', -⟩
        rw [hc] at hc'
        cases hc'
      refine iff_of_false ?_ hnot
      simp only [hc] at h
      split at h
      · split at h
        · exact ne_none_of_exec_bind h
        · cases h
      · cases h

end Run

/-- The course of a hook for an instance that it has looked up, however functions are called.  Up to
the put none is called, and neither the runtime nor a storage changes. -/
inductive Hook.Course (h : Hook) (x : Instance) (subject : Value) (w : World) : Prop
  /-- A service fails, or there is none. -/
  | failed {e : Failure} {w' : World} :
      w.Untouched w' → (∀ invoke, exec (h.run invoke subject) w = (.error e, w')) →
      Course h x subject w
  /-- There is nothing to write. -/
  | answered {fields : Entries String Value} {w' : World} :
      ¬ h.Writes w.definition fields → w.Untouched w' →
      (∀ invoke, exec (h.run invoke subject) w = (.ok fields, w')) → Course h x subject w
  /-- All services have answered, and the data of the instance is put with the answer filled in. -/
  | puts {fields : Entries String Value} {w' : World} :
      h.Writes w.definition fields → w.Untouched w' →
      (∀ invoke, exec (h.run invoke subject) w = exec ((fun _ => fields) <$>
        Run.put invoke (.text x.id) (.map (Entries.merge x.data fields))) w') →
      Course h x subject w

namespace Hook

variable {w : World} {subject : Value} {x : Instance}

/-- A hook fails where there is nothing to look up. -/
theorem exec_run_of_error {e : Failure} (hx : exec (resolveInstance subject) w = (.error e, w))
    (h : Hook) (invoke : Invoke) : exec (h.run invoke subject) w = (.error e, w) := by
  cases h with
  | cascade field =>
      rw [run, exec_map, Run.cascade, exec_bind_error hx]
      rfl
  | enrich => rw [run, Run.enrich, exec_bind_error hx]

/-- What a put of a hook answers is known before it. -/
theorem exec_put_back {α : Type} (invoke : Invoke) (id data : Value) (a : α) (w : World) :
    exec (Run.put invoke id data >>= fun _ => pure a) w =
      exec ((fun _ => a) <$> Run.put invoke id data) w := by
  rw [bind_pure_comp]

theorem course_cascade (field : String) (hx : exec (resolveInstance subject) w = (.ok x, w)) :
    (cascade field).Course x subject w := by
  have haside := aside_cascadeAnswer x field w
  rcases hanswer : exec (cascadeAnswer x field) w with ⟨answer, w'⟩
  rw [hanswer] at haside
  -- no function is called before this point, so that what follows holds for all ways to call them
  cases answer with
  | error e =>
      have hruns : ∀ invoke, exec ((cascade field).run invoke subject) w = (.error e, w') := by
        intro invoke
        rw [run, exec_map, Run.cascade, exec_bind_ok hx, exec_bind_error hanswer]
        rfl
      exact .failed haside hruns
  | ok answer =>
      have hlink := cascadeAnswer_eq_none_iff hanswer
      rcases answer with _ | v
      · have hruns : ∀ invoke, exec ((cascade field).run invoke subject) w =
            (.ok [(field, x.value field)], w') := by
          intro invoke
          rw [run, exec_map, Run.cascade, exec_bind_ok hx, exec_bind_ok hanswer]
          rfl
        exact .answered (fun h => h.1 (hlink.mp rfl)) haside hruns
      · have hnot : ¬ w.definition.IsPureLink field := fun h => nomatch hlink.mpr h
        by_cases hv : v = .null
        · subst hv
          have hruns : ∀ invoke, exec ((cascade field).run invoke subject) w =
              (.ok [(field, .null)], w') := by
            intro invoke
            rw [run, exec_map, Run.cascade, exec_bind_ok hx, exec_bind_ok hanswer]
            rfl
          exact .answered (fun h => h.2 rfl) haside hruns
        · have hwrites : (cascade field).Writes w.definition [(field, v)] :=
            ⟨hnot, fun h => hv (by simpa using h)⟩
          have hruns : ∀ invoke, exec ((cascade field).run invoke subject) w =
              exec ((fun _ => [(field, v)]) <$> Run.put invoke (.text x.id)
                (.map (Entries.merge x.data [(field, v)]))) w' := by
            intro invoke
            rw [run, exec_map, Run.cascade, exec_bind_ok hx, exec_bind_ok hanswer]
            split
            · rename_i hnone
              cases hnone
            · rename_i hnull
              exact absurd (Option.some.inj hnull) hv
            · rename_i hsome
              obtain rfl := Option.some.inj hsome
              have hput : Entries.merge x.data [(field, v)] = Entries.put field v x.data := rfl
              rw [hput, exec_put_back, ← exec_map, Functor.map_map]
          exact .puts hwrites haside hruns

theorem course_enrich (hx : exec (resolveInstance subject) w = (.ok x, w)) :
    enrich.Course x subject w := by
  by_cases hnone : w.definition.enrichments.isEmpty
  · have hruns : ∀ invoke, exec (enrich.run invoke subject) w = (.ok [], w) := by
      intro invoke
      rw [run, Run.enrich, exec_bind_ok hx, exec_bind_ok (exec_definition w), if_pos hnone]
      rfl
    exact .answered (fun h => h rfl) (World.Untouched.refl w) hruns
  cases hfetch : w.services.fetch with
  | none =>
      have hruns : ∀ invoke, exec (enrich.run invoke subject) w =
          (.error (.missingCollaborator .enricher w.definition.type), w) := by
        intro invoke
        rw [run, Run.enrich, exec_bind_ok hx, exec_bind_ok (exec_definition w), if_neg hnone,
          exec_bind_ok (exec_get w)]
        simp only [hfetch]
        rfl
      exact .failed (World.Untouched.refl w) hruns
  | some answer =>
      have hstart : ∀ invoke, exec (enrich.run invoke subject) w =
          exec (fetchAll answer x [] w.definition.enrichments >>= fun ps =>
            if !(w.definition.synced ps).isEmpty then
              Run.put invoke (.text x.id) (.map (Entries.merge x.data (w.definition.synced ps))) >>=
                fun _ => pure (w.definition.synced ps)
            else pure (w.definition.synced ps)) w := by
        intro invoke
        rw [run, Run.enrich, exec_bind_ok hx, exec_bind_ok (exec_definition w), if_neg hnone,
          exec_bind_ok (exec_get w)]
        simp only [hfetch]
      have haside := aside_fetchAll answer x w.definition.enrichments [] w
      rcases hfetched : exec (fetchAll answer x [] w.definition.enrichments) w with ⟨ps, w'⟩
      rw [hfetched] at haside
      cases ps with
      | error e =>
          have hruns : ∀ invoke, exec (enrich.run invoke subject) w = (.error e, w') := by
            intro invoke
            rw [hstart, exec_bind_error hfetched]
          exact .failed haside hruns
      | ok ps =>
          by_cases hempty : w.definition.synced ps = []
          · have hruns : ∀ invoke, exec (enrich.run invoke subject) w =
                (.ok (w.definition.synced ps), w') := by
              intro invoke
              rw [hstart, exec_bind_ok hfetched, hempty]
              rfl
            exact .answered (fun h => h hempty) haside hruns
          · have hruns : ∀ invoke, exec (enrich.run invoke subject) w =
                exec ((fun _ => w.definition.synced ps) <$> Run.put invoke (.text x.id)
                  (.map (Entries.merge x.data (w.definition.synced ps)))) w' := by
              intro invoke
              rw [hstart, exec_bind_ok hfetched, if_pos (by simpa using hempty), exec_put_back]
            exact .puts hempty haside hruns

/-- **The course of a hook** is the same however functions are called, up to the put that may call
one. -/
theorem course (h : Hook) (hx : exec (resolveInstance subject) w = (.ok x, w)) :
    h.Course x subject w := by
  cases h with
  | cascade field => exact course_cascade field hx
  | enrich => exact course_enrich hx

end Hook

/-- A hook fails if there is nothing to look up; otherwise it fills what it answers into the data of
the instance that it has looked up. -/
theorem Hook.run_cases {i : Nat} {w : World} (h : Hook) (invoke : Invoke) (hw : w.Serves i)
    (hquiet : w.Quiet) (subject : Value) :
    (∃ e, exec (h.run invoke subject) w = (.error e, w)) ∨
      ∃ x, exec (resolveInstance subject) w = (.ok x, w) ∧
        w.Fills i x id (fun fields => h.Writes w.definition fields)
          (exec (h.run invoke subject) w) := by
  have hworld := exec_resolveInstance_world subject w
  rcases hx : exec (resolveInstance subject) w with ⟨found, w'⟩
  rw [hx] at hworld
  obtain rfl : w' = w := hworld
  cases found with
  | error e => exact Or.inl ⟨e, h.exec_run_of_error hx invoke⟩
  | ok x =>
      right
      refine ⟨x, rfl, ?_⟩
      cases h.course hx with
      | failed haside hruns =>
          rw [hruns]
          exact .failed haside
      | answered hnot haside hruns =>
          rw [hruns]
          exact .answered hnot haside
      | puts hwrites haside hruns =>
          rw [hruns, exec_map]
          rcases exec_put_of_quiet invoke (hw.congr haside.runtime) (hquiet.congr haside.runtime)
            x.id _ with ⟨e, he⟩ | hput
          · rw [he]
            exact .failed haside
          · rw [hput]
            exact .filled hwrites (haside.storing i x.id _)

/-! ## What a write keeps -/

namespace World

/-- The data that a storage holds under an identity; none where it holds no instance. -/
def held (w : World) (i : Nat) (id : String) : Entries String Value :=
  ((stored? w.definition (w.store i) id).map Instance.data).getD []

/-- Nothing was changed in the storages but fields of the data under an identity of storage `i`. -/
structure OnlyFilled (i : Nat) (id : String) (fields : List String) (w w' : World) : Prop where
  elsewhere : ∀ j key, j ≠ i ∨ key ≠ id →
    Entries.get? key (w'.store j) = Entries.get? key (w.store j)
  beside : ∀ name, name ∉ fields →
    Entries.get? name (w'.held i id) = Entries.get? name (w.held i id)

end World

/-- Two instances have the same values beside some fields; the tag of the version is no field. -/
def Instance.AgreesBeside (x y : Instance) (fields : List String) : Prop :=
  ∀ name, name ∉ fields → name ≠ Storage.versionKey →
    Entries.get? name x.data = Entries.get? name y.data

/-- An instance that is stored has its key as identity, and no tag among its data. -/
theorem untagged_of_stored? {d : Definition} {s : Storage} {key : String} {y : Instance}
    (h : stored? d s key = some y) :
    y.id = key ∧ Entries.get? Storage.versionKey y.data = none := by
  rw [stored?, not_isReserved_of_stored? h] at h
  simp only [Bool.false_eq_true, if_false] at h
  split at h
  · cases h
    refine ⟨rfl, ?_⟩
    show Entries.get? Storage.versionKey (Entries.erase Storage.versionKey _) = none
    rw [Entries.get?_erase, if_pos rfl]
  · cases h

/-- What was put under a key is stored there. -/
theorem stored?_put {key : String} (hkey : isReserved key = false) (d : Definition)
    (payload : Entries String Value) (s : Storage) :
    stored? d (Entries.put key (.map payload) s) key = some (d.instanceOf key payload) := by
  have hread : Storage.read (Entries.put key (.map payload) s) key = .map payload := by
    rw [Storage.read, Value.lookup, Entries.get?_put, if_pos rfl]
    rfl
  simp only [stored?, hkey, hread, Bool.false_eq_true, if_false]

namespace World

variable {i : Nat} {id : String} {fields : List String} {w w' w'' : World}

theorem Untouched.store_eq (h : w.Untouched w') (j : Nat) : w'.store j = w.store j := by
  rw [store, store, h.stores]

theorem Untouched.held_eq (h : w.Untouched w') (i : Nat) (id : String) :
    w'.held i id = w.held i id := by
  rw [held, held, definition, definition, h.runtime, h.store_eq]

theorem OnlyFilled.refl (w : World) : OnlyFilled i id fields w w :=
  ⟨fun _ _ _ => rfl, fun _ _ => rfl⟩

/-- Services do not matter to what was changed in the storages. -/
theorem OnlyFilled.congr (hw : OnlyFilled i id fields w w') (h : w'.Untouched w'') :
    OnlyFilled i id fields w w'' := by
  constructor
  · intro j key hkey
    rw [h.store_eq, hw.elsewhere j key hkey]
  · intro name hname
    rw [h.held_eq, hw.beside name hname]

theorem OnlyFilled.congr_iff (h : w'.Untouched w'') :
    OnlyFilled i id fields w w'' ↔ OnlyFilled i id fields w w' :=
  ⟨fun hw => hw.congr h.symm, fun hw => hw.congr h⟩

theorem held_of_stored {y : Instance} (hy : stored? w.definition (w.store i) id = some y) :
    w.held i id = y.data := by
  rw [held, hy]
  rfl

/-- A storage that holds something is there. -/
theorem lt_length_of_stored {y : Instance} (hy : stored? w.definition (w.store i) id = some y) :
    i < w.stores.length := by
  by_contra hi
  have hempty : w.store i = [] := by
    rw [store, List.getElem?_eq_none (Nat.le_of_not_lt hi)]
    rfl
  have hreserved := not_isReserved_of_stored? hy
  rw [hempty, stored?, hreserved] at hy
  cases hy

/-- Stored data is held without a tag. -/
theorem held_storing (hi : i < w.stores.length) (hid : isReserved id = false)
    (es : Entries String Value) :
    (w.storing i id es).held i id = Entries.erase Storage.versionKey es := by
  have hstored : stored? w.definition ((w.storing i id es).store i) id =
      some (w.definition.made id es) := by
    rw [storing, store_changeStore hi, stored?_put hid]
    rfl
  rw [held_of_stored hstored]
  exact Entries.erase_put _ _ es

/-- **Storing an instance keeps what agrees.**  If the data of an instance is stored with fields
filled in, only these are changed exactly if the instance agrees with the stored one beside them. -/
theorem onlyFilled_storing_iff {x y : Instance} {filled : Entries String Value}
    (hy : stored? w.definition (w.store i) x.id = some y) :
    OnlyFilled i x.id (Entries.keys filled) w
        (w.storing i x.id (Entries.merge x.data filled)) ↔
      x.AgreesBeside y (Entries.keys filled) := by
  obtain ⟨-, huntagged⟩ := untagged_of_stored? hy
  have hi := lt_length_of_stored hy
  have hget : ∀ name, name ∉ Entries.keys filled → name ≠ Storage.versionKey →
      Entries.get? name (Entries.erase Storage.versionKey (Entries.merge x.data filled)) =
        Entries.get? name x.data := by
    intro name hname htag
    rw [Entries.get?_erase, if_neg (Ne.symm htag), Entries.get?_merge_of_notMem hname]
  constructor
  · intro h name hname htag
    have hbeside := h.beside name hname
    rw [held_storing hi (not_isReserved_of_stored? hy), held_of_stored hy, hget name hname htag]
      at hbeside
    exact hbeside
  · intro h
    constructor
    · intro j key hkey
      by_cases hj : j = i
      · subst hj
        have hne : key ≠ x.id := hkey.resolve_left fun hne => hne rfl
        rw [storing, store_changeStore hi, Entries.get?_put, if_neg (Ne.symm hne)]
      · rw [storing, store_changeStore_of_ne hj]
    · intro name hname
      rw [held_storing hi (not_isReserved_of_stored? hy), held_of_stored hy]
      -- the tag of the version is neither in the stored data nor in what is stored now
      by_cases htag : name = Storage.versionKey
      · rw [htag, huntagged, Entries.get?_erase, if_pos rfl]
      · rw [hget name hname htag, h name hname htag]

end World

/-! ## What a hook is given -/

/-- A hook that is given no instance looks up what is stored. -/
theorem stored?_of_resolveInstance {w : World} {i : Nat} {subject : Value} {x : Instance}
    (hw : w.Serves i) (hsubject : subject.instance? = none)
    (hx : exec (resolveInstance subject) w = (.ok x, w)) :
    stored? w.definition (w.store i) x.id = some x := by
  rw [resolveInstance, hsubject] at hx
  dsimp only at hx
  rw [getInstance, bind_assoc, exec_bind_ok (exec_usable hw .get), bind_assoc, exec_bind,
    exec_ofResult] at hx
  cases hid : identityText subject with
  | error e =>
      rw [hid] at hx
      cases hx
  | ok key =>
      rw [hid] at hx
      dsimp only at hx
      rw [exec_bind_ok (exec_instanceAt i key w)] at hx
      cases hstored : stored? w.definition (w.store i) key with
      | none =>
          rw [hstored] at hx
          cases hx
      | some y =>
          rw [hstored] at hx
          cases hx
          rw [(untagged_of_stored? hstored).1]
          exact hstored

/-- **The frame of a hook** that is called in a world.  It fails and writes nothing, or it answers
fields.  If these are to be written, the data that it has looked up is stored with them filled in;
beside them nothing changes if the hook was given an identity, and if it was given an instance
exactly if that agrees with the stored one. -/
def Hook.Framed (h : Hook) (invoke : Invoke) (i : Nat) (subject : Value) (w : World) : Prop :=
  (∃ e w', exec (h.run invoke subject) w = (.error e, w') ∧ w.Untouched w') ∨
  ∃ x fields w', exec (resolveInstance subject) w = (.ok x, w) ∧
    exec (h.run invoke subject) w = (.ok fields, w') ∧
    (¬ h.Writes w.definition fields → w.Untouched w') ∧
    (h.Writes w.definition fields →
      (subject.instance? = none → w.OnlyFilled i x.id (Entries.keys fields) w') ∧
      ∀ y, stored? w.definition (w.store i) x.id = some y →
        w'.held i x.id = Entries.erase Storage.versionKey (Entries.merge x.data fields) ∧
        (w.OnlyFilled i x.id (Entries.keys fields) w' ↔
          x.AgreesBeside y (Entries.keys fields)))

theorem Hook.framed {i : Nat} {w : World} (h : Hook) (invoke : Invoke) (hw : w.Serves i)
    (hquiet : w.Quiet) (subject : Value) : h.Framed invoke i subject w := by
  rcases h.run_cases invoke hw hquiet subject with ⟨e, he⟩ | ⟨x, hx, hfills⟩
  · exact Or.inl ⟨e, w, he, World.Untouched.refl w⟩
  · unfold Framed
    generalize exec (h.run invoke subject) w = r at hfills ⊢
    cases hfills with
    | failed haside => exact Or.inl ⟨_, _, rfl, haside⟩
    | answered hnot haside =>
        right
        refine ⟨x, _, _, hx, rfl, fun _ => haside, ?_⟩
        intro hwrites
        exact absurd hwrites hnot
    | @filled fields w' hwrites hstored =>
        right
        refine ⟨x, fields, w', hx, rfl, fun hnot => absurd hwrites hnot, fun _ => ?_⟩
        have hiff : ∀ y, stored? w.definition (w.store i) x.id = some y →
            (w.OnlyFilled i x.id (Entries.keys fields) w' ↔
              x.AgreesBeside y (Entries.keys fields)) := by
          intro y hy
          rw [World.OnlyFilled.congr_iff hstored]
          exact World.onlyFilled_storing_iff hy
        constructor
        · intro hsubject
          rw [hiff x (stored?_of_resolveInstance hw hsubject hx)]
          intro name _ _
          rfl
        · intro y hy
          refine ⟨?_, hiff y hy⟩
          rw [hstored.held_eq]
          exact World.held_storing (World.lt_length_of_stored hy) (not_isReserved_of_stored? hy) _

/-! ## Sequences of calls -/

/-- A call that works on the instances of a runtime. -/
inductive Call where
  | create (id data : Value)
  | put (id data : Value)
  | delete (id : Value)
  | hook (h : Hook) (subject : Value)

/-- The world that a call leaves, whether it has an answer or fails. -/
def Call.next (invoke : Invoke) (w : World) : Call → World
  | create id data => (exec (Run.create invoke id data) w).2
  | put id data => (exec (Run.put invoke id data) w).2
  | delete id => (exec (Run.delete invoke id) w).2
  | hook h subject => (exec (h.run invoke subject) w).2

/-- The world after calls, in order. -/
def World.after (w : World) (invoke : Invoke) (calls : List Call) : World :=
  calls.foldl (Call.next invoke) w

section Calls

variable {invoke : Invoke} {i : Nat} {w : World}

theorem Run.Mediated.kept {α : Type} {x : Run α} (hx : x.Mediated i) (hw : w.Serves i) :
    w.Kept i (exec x w).2 := by
  obtain ⟨ds, hd⟩ := hx w hw.1
  exact hd.kept

/-- One call keeps the runtime. -/
theorem Call.kept_next (hi : invoke.Mediated i) (hw : w.Serves i) (c : Call) :
    w.Kept i (c.next invoke w) := by
  cases c with
  | create id data => exact (mediated_create hi id data).kept hw
  | put id data => exact (mediated_put hi id data).kept hw
  | delete id => exact (mediated_delete hi id).kept hw
  | hook h subject =>
      cases h with
      | cascade field => exact ((mediated_cascade hi subject field).map _).kept hw
      | enrich => exact (mediated_enrich hi subject).kept hw

/-- All calls keep the runtime, by induction on them. -/
theorem World.kept_after (hi : invoke.Mediated i) (hw : w.Serves i) (calls : List Call) :
    w.Kept i (w.after invoke calls) := by
  induction calls generalizing w with
  | nil => exact World.Kept.refl i w
  | cons c calls ih =>
      have hkept := c.kept_next hi hw
      exact hkept.trans (ih (hw.congr hkept.runtime))

/-- **Hooks keep what they have looked up.**  A runtime that serves a storage and has no handler of
updates may create, put, delete and fill instances in whatever order: every hook that is called then
has its frame.  Only a hook that was given an instance changes more than the fields that it answers,
exactly if the instance differs from the stored one beside these fields. -/
theorem hooks_keep_data_iff (hi : invoke.Mediated i) (hw : w.Serves i) (hquiet : w.Quiet)
    (calls : List Call) (h : Hook) (subject : Value) :
    h.Framed invoke i subject (w.after invoke calls) := by
  have hkept := World.kept_after hi hw calls
  exact h.framed invoke (hw.congr hkept.runtime) (hquiet.congr hkept.runtime) subject

end Calls

/-! ### An old instance -/

namespace Fintech

/-- Startups with a field that is matched against industries. -/
def definition : Definition :=
  { (default : Definition) with
    type := "Startup"
    version := 1
    fields := [("industry",
      { name := "industry", description := "", source := .fuzzy,
        fuzzyTarget := some "Industry" })] }

/-- A runtime that is bound to a storage without instances, with a service that knows one match. -/
def world : World where
  runtime := { definition, phase := .bound, storage := some 0 }
  stores := [[("$version", .int 1)]]
  services := { ground := some fun _ _ => .ok (.text "https://industries.do/fin") }

/-- A startup on a plan. -/
def startup (plan : String) : Entries String Value :=
  [("industry", .text "fintech"), ("plan", .text plan)]

/-- The startup is created, and then its plan is changed. -/
def calls : List Call :=
  [.create (.text "acme") (.map (startup "free")), .put (.text "acme") (.map (startup "paid"))]

/-- Match the industry. -/
def hook : Hook := .cascade "industry"

/-- The runtime after the calls. -/
def upgraded : World := world.after Run.invoke calls

end Fintech

/-- The general statement for a hook that is given the identity: only the industry changes. -/
theorem hooks_keep_data_acme :
    (Fintech.world.Serves 0 ∧ Fintech.world.Quiet) ∧
      ∃ w', exec (Fintech.hook.run Run.invoke (.text "acme")) Fintech.upgraded =
          (.ok [("industry", .text "https://industries.do/fin")], w') ∧
        Fintech.upgraded.OnlyFilled 0 "acme" ["industry"] w' ∧
        w'.held 0 "acme" =
          [("industry", .text "https://industries.do/fin"), ("plan", .text "paid")] := by
  have hserves : Fintech.world.Serves 0 := ⟨rfl, by decide⟩
  have hquiet : Fintech.world.Quiet := rfl
  have hanswer : (exec (Fintech.hook.run Run.invoke (.text "acme")) Fintech.upgraded).1 =
      .ok [("industry", .text "https://industries.do/fin")] := rfl
  have hlooked : exec (resolveInstance (.text "acme")) Fintech.upgraded =
      (.ok (Fintech.definition.made "acme" (Fintech.startup "paid")), Fintech.upgraded) := rfl
  refine ⟨⟨hserves, hquiet⟩, ?_⟩
  rcases hooks_keep_data_iff mediated_invoke hserves hquiet Fintech.calls Fintech.hook
    (.text "acme") with ⟨e, w', he, -⟩ | ⟨x, fields, w', hx, hrun, -, hwritten⟩
  · cases hanswer.symm.trans (congrArg Prod.fst he)
  · cases hanswer.symm.trans (congrArg Prod.fst hrun)
    cases hlooked.symm.trans hx
    have hasked : ¬ Fintech.definition.IsPureLink "industry" := by
      rintro ⟨c, hc, -⟩
      cases hc
    obtain ⟨hkept, hdata⟩ := hwritten ⟨hasked, by simp⟩
    exact ⟨w', hrun, hkept rfl, (hdata _ rfl).1⟩

/-- Given the instance that creating has answered, the hook undoes the change of the plan. -/
theorem hook_undoes_plan_acme : ∃ x,
    (exec (create Run.invoke (.text "acme") (.map (Fintech.startup "free"))) Fintech.world).1 =
        .ok x ∧
      Entries.get? "plan" (Fintech.upgraded.held 0 "acme") = some (.text "paid") ∧
      (exec (Fintech.hook.run Run.invoke x.toValue) Fintech.upgraded).1 =
        .ok [("industry", .text "https://industries.do/fin")] ∧
      Entries.get? "plan"
        ((exec (Fintech.hook.run Run.invoke x.toValue) Fintech.upgraded).2.held 0 "acme") =
          some (.text "free") :=
  ⟨Fintech.definition.made "acme" (Fintech.startup "free"), rfl, rfl, rfl, rfl⟩

end Entity
