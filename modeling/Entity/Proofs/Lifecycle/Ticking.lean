import Entity.Lifecycle.Timetable
import Entity.Proofs.Definition.Parts
import Entity.Proofs.Lifecycle.Firing

/-!
# What a tick runs

What is due is fixed before any handler runs.  Main statements: the names that are due are those of
schedules and then of cron expressions, each in the order of the definition, and no name is both; a
tick of a bound runtime calls their handlers once each in this order, up to the first that fails; in
any other state it calls none, and is refused exactly if something is due.
-/

namespace Entity

open Run

/-! ## What is due -/

/-- The outcome of a test says yes. -/
def Outcome.Affirms (x : Outcome Bool) : Prop := x.result = .ok true

instance (x : Outcome Bool) : Decidable x.Affirms :=
  decidable_of_iff (x.result.toOption = some true) (by
    unfold Outcome.Affirms
    cases x.result <;> simp [Except.toOption])

namespace Definition

variable {d : Definition} {raw : Entries String Value} {last : LastRun} {now : Moment}

/-- The tests of what is due answer. -/
structure Tested (d : Definition) (last : LastRun) (now : Moment) : Prop where
  schedules : ∀ name ∈ Entries.keys d.schedules,
    ∃ b, (Interval.isDue name (last.of name) now).result = .ok b
  crons : ∀ name ∈ Entries.keys d.crons, ∃ b, (Cron.isDue name (last.of name) now).result = .ok b

/-- The handlers that are due, under their names: those of the schedules whose interval has passed,
and then those of the cron expressions that match. -/
def dueHandlers (d : Definition) (last : LastRun) (now : Moment) : Entries String Callable :=
  d.schedules.filter (fun e => (Interval.isDue e.1 (last.of e.1) now).Affirms) ++
    d.crons.filter (fun e => (Cron.isDue e.1 (last.of e.1) now).Affirms)

/-- The names that pass a test that answers for all of them. -/
theorem result_dueNames {isDue : String → Outcome Bool} {names : List String}
    (h : ∀ name ∈ names, ∃ b, (isDue name).result = .ok b) :
    (dueNames isDue names).result = .ok (names.filter fun name => (isDue name).Affirms) := by
  induction names with
  | nil => rfl
  | cons name names ih =>
      obtain ⟨b, hb⟩ := h name (List.mem_cons_self ..)
      have hrest := ih fun other hother => h other (List.mem_cons_of_mem _ hother)
      rw [dueNames, Outcome.result_bind, hb, List.filter_cons]
      show (dueNames isDue names >>= fun rest => pure (if b then name :: rest else rest)).result = _
      rw [Outcome.result_bind, hrest]
      cases b with
      | true =>
          have hyes : (isDue name).Affirms := hb
          simp [Except.bind, hyes]
      | false =>
          have hno : ¬ (isDue name).Affirms := by
            rw [Outcome.Affirms, hb]
            simp
          simp [Except.bind, hno]

theorem keys_filter {p : String → Bool} (m : Entries String Callable) :
    Entries.keys (m.filter fun e => p e.1) = (Entries.keys m).filter p := by
  rw [Entries.keys, Entries.keys, List.filter_map]
  rfl

/-- What is due, if the tests answer. -/
theorem result_due (h : d.Tested last now) :
    (d.due last now).result = .ok (Entries.keys (d.dueHandlers last now)) := by
  have hkeys : Entries.keys (d.dueHandlers last now) =
      ((Entries.keys d.schedules).filter
          fun name => (Interval.isDue name (last.of name) now).Affirms) ++
        (Entries.keys d.crons).filter
          fun name => (Cron.isDue name (last.of name) now).Affirms := by
    rw [← keys_filter, ← keys_filter]
    exact List.map_append
  rw [due, Outcome.result_bind, dueSchedules, result_dueNames h.schedules]
  show ((d.dueCrons last now) >>= fun crons => pure (_ ++ crons)).result = _
  rw [Outcome.result_bind, dueCrons, result_dueNames h.crons, hkeys]
  rfl

/-! ### Names are of one kind -/

theorem ReadFrom.schedules_eq (h : d.ReadFrom raw (.ofParts (partsIn raw))) :
    d.schedules = Entries.pick (fun _ p => p.schedule?) (partsIn raw) := h.schedules

theorem ReadFrom.crons_eq (h : d.ReadFrom raw (.ofParts (partsIn raw))) :
    d.crons = Entries.pick (fun _ p => p.cron?) (partsIn raw) := h.crons

/-- No name is that of a schedule and of a cron expression. -/
theorem ReadFrom.disjoint_timed (h : d.ReadFrom raw (.ofParts (partsIn raw)))
    (hraw : (Entries.keys raw).Nodup) :
    (Entries.keys d.schedules).Disjoint (Entries.keys d.crons) := by
  have hparts := nodup_keys_partsIn hraw
  -- a name of both kinds would be the key of two parts, and keys are distinct
  intro name hschedule hcron
  rw [h.schedules_eq] at hschedule
  rw [h.crons_eq] at hcron
  obtain ⟨⟨_, f⟩, hf, rfl⟩ := List.mem_map.mp hschedule
  obtain ⟨⟨_, g⟩, hg, rfl⟩ := List.mem_map.mp hcron
  obtain ⟨p, hp, hschedule⟩ := Entries.mem_pick.mp hf
  obtain ⟨q, hq, hcron⟩ := Entries.mem_pick.mp hg
  have hsame : some p = some q := by
    rw [← (Entries.get?_eq_some_iff hparts _ p).mpr hp,
      ← (Entries.get?_eq_some_iff hparts _ q).mpr hq]
  obtain rfl := Option.some.inj hsame
  cases p
  case schedule => cases hcron
  all_goals cases hschedule

theorem ReadFrom.nodup_schedules (h : d.ReadFrom raw (.ofParts (partsIn raw)))
    (hraw : (Entries.keys raw).Nodup) : (Entries.keys d.schedules).Nodup := by
  rw [h.schedules_eq]
  exact Entries.nodup_keys_pick _ (nodup_keys_partsIn hraw)

theorem ReadFrom.nodup_crons (h : d.ReadFrom raw (.ofParts (partsIn raw)))
    (hraw : (Entries.keys raw).Nodup) : (Entries.keys d.crons).Nodup := by
  rw [h.crons_eq]
  exact Entries.nodup_keys_pick _ (nodup_keys_partsIn hraw)

/-- Nothing is due twice. -/
theorem ReadFrom.nodup_dueHandlers (h : d.ReadFrom raw (.ofParts (partsIn raw)))
    (hraw : (Entries.keys raw).Nodup) (last : LastRun) (now : Moment) :
    (Entries.keys (d.dueHandlers last now)).Nodup := by
  have hsub : ∀ (p : String × Callable → Bool) (m : Entries String Callable),
      (Entries.keys (m.filter p)).Sublist (Entries.keys m) :=
    fun p m => List.filter_sublist.map _
  rw [dueHandlers, Entries.keys, List.map_append, List.nodup_append']
  refine ⟨(h.nodup_schedules hraw).sublist (hsub _ _), (h.nodup_crons hraw).sublist (hsub _ _), ?_⟩
  intro name hschedule hcron
  exact h.disjoint_timed hraw ((hsub _ _).subset hschedule) ((hsub _ _).subset hcron)

/-- What is due under a name is what the definition runs under it. -/
theorem ReadFrom.timed?_of_mem (h : d.ReadFrom raw (.ofParts (partsIn raw)))
    (hraw : (Entries.keys raw).Nodup) {e : String × Callable} (he : e ∈ d.dueHandlers last now) :
    d.timed? e.1 = some e.2 := by
  rw [timed?]
  rcases List.mem_append.mp he with he | he
  · have hmem := (List.mem_filter.mp he).1
    rw [(Entries.get?_eq_some_iff (h.nodup_schedules hraw) _ _).mpr hmem]
    rfl
  · have hmem := (List.mem_filter.mp he).1
    have hnone : Entries.get? e.1 d.schedules = none := by
      rw [Entries.get?_eq_none_iff]
      intro hschedule
      exact h.disjoint_timed hraw hschedule (List.mem_map_of_mem hmem)
    rw [hnone, (Entries.get?_eq_some_iff (h.nodup_crons hraw) _ _).mpr hmem]
    rfl

/-- Handlers are declared in the order of the mapping that the definition was read from. -/
theorem ReadFrom.keys_timed_sublist (h : d.ReadFrom raw (.ofParts (partsIn raw))) :
    (Entries.keys d.schedules).Sublist (Entries.keys raw) ∧
      (Entries.keys d.crons).Sublist (Entries.keys raw) := by
  have hparts : (Entries.keys (partsIn raw)).Sublist (Entries.keys raw) := by
    refine (Entries.keys_pick_sublist _ _).trans ?_
    exact List.filter_sublist.map _
  constructor
  · rw [h.schedules_eq]
    exact (Entries.keys_pick_sublist _ _).trans hparts
  · rw [h.crons_eq]
    exact (Entries.keys_pick_sublist _ _).trans hparts

end Definition

/-! ## Running what is due -/

/-- The runtime of the world is bound to a storage. -/
def World.Bound (w : World) : Prop := w.runtime.phase = .bound ∧ ∃ i, w.runtime.storage = some i

/-- The world with warnings added. -/
def World.warned (w : World) (ws : List Warning) : World := { w with warnings := w.warnings ++ ws }

/-- Functions that answer leave the runtime as it was. -/
def Invoke.KeepsRuntime (invoke : Invoke) : Prop :=
  ∀ f args w a w', exec (invoke f args) w = (.ok a, w') → w'.runtime = w.runtime

/-- Functions are called once each, in order, and all of them answer. -/
inductive Run.CallsInOrder (invoke : Invoke) (args : List Value) :
    List Callable → World → World → Prop
  | nil (w : World) : CallsInOrder invoke args [] w w
  | cons {f : Callable} {fs : List Callable} {w w' w'' : World} {a : Value} :
      exec (invoke f args) w = (.ok a, w') → CallsInOrder invoke args fs w' w'' →
      CallsInOrder invoke args (f :: fs) w w''

/-- Functions are called once each, in order, up to one that fails. -/
def Run.CallsUpTo (invoke : Invoke) (args : List Value) (fs : List Callable) (w : World)
    (e : Failure) (w' : World) : Prop :=
  ∃ before f after reached, fs = before ++ f :: after ∧
    CallsInOrder invoke args before w reached ∧ exec (invoke f args) reached = (.error e, w')

namespace Run

variable {invoke : Invoke} {w : World} {name : String} {f : Callable}

theorem keepsRuntime_invoke : Run.invoke.KeepsRuntime := by
  intro f args w a w' h
  have hspends := spends_invoke f args w
  rw [h] at hspends
  exact hspends.runtime

theorem exec_ofOutcome {α : Type} (x : Outcome α) (w : World) :
    exec (ofOutcome x) w = (x.result, w.warned x.warnings) := by
  rw [ofOutcome, warnAll, exec_bind, exec_modify]
  dsimp only
  rw [exec_ofResult]
  rfl

/-- A bound runtime calls the handler. -/
theorem exec_runSchedule (hw : w.Bound) (hf : w.definition.timed? name = some f) (invoke : Invoke) :
    exec (runSchedule invoke name) w = exec (invoke f [w.hooks]) w := by
  obtain ⟨hphase, i, hs⟩ := hw
  have husable : exec (usable (.runSchedule name) [.bound]) w = (.ok i, w) := by
    simp [usable, exec_bind, hs, hphase]
  rw [runSchedule, exec_bind_ok (exec_get w), hf]
  exact exec_bind_ok husable _

/-- Any other runtime refuses to. -/
theorem exec_runSchedule_of_not_bound (hw : ¬ w.Bound) (hf : w.definition.timed? name = some f)
    (invoke : Invoke) : exec (runSchedule invoke name) w =
      (.error (.wrongPhase (.runSchedule name) w.runtime.phase w.definition.type), w) := by
  have husable : exec (usable (.runSchedule name) [.bound]) w =
      (.error (.wrongPhase (.runSchedule name) w.runtime.phase w.definition.type), w) := by
    cases hs : w.runtime.storage with
    | none => simp [usable, exec_bind, hs, World.definition]
    | some i =>
        have hphase : w.runtime.phase ≠ .bound := fun hphase => hw ⟨hphase, i, hs⟩
        simp [usable, exec_bind, hs, hphase, World.definition]
  rw [runSchedule, exec_bind_ok (exec_get w), hf]
  exact exec_bind_error husable _

/-- **Running handlers by name calls them in order**, by induction on the names: each call leaves
the runtime bound for the next. -/
theorem exec_runSchedules (hinvoke : invoke.KeepsRuntime) {due : Entries String Callable}
    (hw : w.Bound) (hdue : ∀ e ∈ due, w.definition.timed? e.1 = some e.2) :
    (∃ w', CallsInOrder invoke [w.hooks] (due.map Prod.snd) w w' ∧
      exec (runSchedules invoke (Entries.keys due)) w = (.ok (), w')) ∨
    ∃ e w', CallsUpTo invoke [w.hooks] (due.map Prod.snd) w e w' ∧
      exec (runSchedules invoke (Entries.keys due)) w = (.error e, w') := by
  -- the world is generalised, as each handler runs in the one that those before it have left
  induction due generalizing w with
  | nil => exact Or.inl ⟨w, .nil w, rfl⟩
  | cons e due ih =>
      obtain ⟨name, f⟩ := e
      have hrun : exec (runSchedule invoke name) w = exec (invoke f [w.hooks]) w :=
        exec_runSchedule hw (hdue _ (List.mem_cons_self ..)) invoke
      have hnames : runSchedules invoke (Entries.keys ((name, f) :: due)) =
          (runSchedule invoke name >>= fun _ => runSchedules invoke (Entries.keys due)) := rfl
      rw [hnames]
      rcases hcall : exec (invoke f [w.hooks]) w with ⟨r, w'⟩
      rw [hcall] at hrun
      cases r with
      | error e =>
          right
          refine ⟨e, w', ⟨[], f, due.map Prod.snd, w, rfl, .nil w, hcall⟩, ?_⟩
          exact exec_bind_error hrun _
      | ok a =>
          -- the definition is the same too, so the names left still stand for the same handlers
          have hruntime := hinvoke f _ w a w' hcall
          have hbound : w'.Bound := by
            rw [World.Bound, hruntime]
            exact hw
          have hdefinition : w'.definition = w.definition := congrArg Runtime.definition hruntime
          have hhooks : w'.hooks = w.hooks := by rw [World.hooks, World.hooks, hdefinition]
          have hrest := ih hbound fun e he => by
            rw [hdefinition]
            exact hdue e (List.mem_cons_of_mem _ he)
          rw [hhooks] at hrest
          rw [exec_bind_ok hrun]
          rcases hrest with ⟨w'', hcalls, hend⟩ | ⟨e, w'', hcalls, hend⟩
          · exact Or.inl ⟨w'', .cons hcall hcalls, hend⟩
          · obtain ⟨before, g, after, reached, heq, hbefore, hfails⟩ := hcalls
            refine Or.inr ⟨e, w'', ⟨f :: before, g, after, reached, ?_, ?_, hfails⟩, hend⟩
            · rw [List.map_cons, heq]
              rfl
            · exact .cons hcall hbefore

end Run

/-- What a tick does in a world where `due` is to be run.  The tests of what is due may log
warnings; they come before any handler runs. -/
structure World.Ticks (w : World) (last : LastRun) (now : Moment) (due : Entries String Callable) :
    Prop where
  names : (w.definition.due last now).result = .ok (Entries.keys due)
  bound : w.Bound → ∀ invoke : Invoke, invoke.KeepsRuntime →
    (∃ w', CallsInOrder invoke [w.hooks] (due.map Prod.snd)
        (w.warned (w.definition.due last now).warnings) w' ∧
      exec (tick invoke last now) w = (.ok (Entries.keys due), w')) ∨
    ∃ e w', CallsUpTo invoke [w.hooks] (due.map Prod.snd)
        (w.warned (w.definition.due last now).warnings) e w' ∧
      exec (tick invoke last now) w = (.error e, w')
  unbound : ¬ w.Bound → ∀ invoke : Invoke, exec (tick invoke last now) w =
    (match due with
      | [] => .ok []
      | (name, _) :: _ =>
        .error (.wrongPhase (.runSchedule name) w.runtime.phase w.definition.type),
      w.warned (w.definition.due last now).warnings)

theorem World.ticks {w : World} {last : LastRun} {now : Moment} {due : Entries String Callable}
    (hnames : (w.definition.due last now).result = .ok (Entries.keys due))
    (hdue : ∀ e ∈ due, w.definition.timed? e.1 = some e.2) : w.Ticks last now due := by
  have htick : ∀ invoke : Invoke, exec (tick invoke last now) w =
      exec (runSchedules invoke (Entries.keys due) >>= fun _ => pure (Entries.keys due))
        (w.warned (w.definition.due last now).warnings) := by
    intro invoke
    rw [tick, exec_bind_ok (exec_definition w), exec_bind, exec_ofOutcome, hnames]
  refine ⟨hnames, ?_, ?_⟩
  · intro hbound invoke hinvoke
    have hruns := exec_runSchedules (w := w.warned (w.definition.due last now).warnings) hinvoke
      hbound hdue
    rw [htick]
    rcases hruns with ⟨w', hcalls, hend⟩ | ⟨e, w', hcalls, hend⟩
    · exact Or.inl ⟨w', hcalls, by rw [exec_bind_ok hend]; rfl⟩
    · exact Or.inr ⟨e, w', hcalls, exec_bind_error hend _⟩
  · intro hbound invoke
    rw [htick]
    cases due with
    | nil => rfl
    | cons e due =>
        have hrefused := exec_runSchedule_of_not_bound
          (w := w.warned (w.definition.due last now).warnings) hbound
          (hdue e (List.mem_cons_self ..)) invoke
        have hruns : exec (runSchedules invoke (Entries.keys (e :: due)))
            (w.warned (w.definition.due last now).warnings) =
              (.error (.wrongPhase (.runSchedule e.1) w.runtime.phase w.definition.type),
                w.warned (w.definition.due last now).warnings) :=
          exec_bind_error hrefused _
        exact exec_bind_error hruns _

/-- **A tick runs exactly what is due, once**, in every world whose runtime has a definition that
was read.  What is due has no name twice, and its names are in the order of the definition. -/
theorem tick_exact {raw : Entries String Value} (hraw : (Entries.keys raw).Nodup) {w : World}
    (hread : (Definition.read raw).result = .ok w.definition) {last : LastRun} {now : Moment}
    (htested : w.definition.Tested last now) :
    w.Ticks last now (w.definition.dueHandlers last now) ∧
      (Entries.keys (w.definition.dueHandlers last now)).Nodup ∧
      (Entries.keys w.definition.schedules).Sublist (Entries.keys raw) ∧
      (Entries.keys w.definition.crons).Sublist (Entries.keys raw) := by
  obtain ⟨-, hfrom⟩ := (Definition.read_eq_ok_iff hraw).mp hread
  refine ⟨?_, hfrom.nodup_dueHandlers hraw last now, hfrom.keys_timed_sublist⟩
  apply World.ticks (Definition.result_due htested)
  intro e he
  exact hfrom.timed?_of_mem hraw he

/-! ### A definition with handlers of both kinds -/

namespace Crawler

def raw : Entries String Value :=
  [("$type", .text "Crawler"), ("*/5 * * * *", .function (.handler 0 "poll")),
    ("everyHour", .function (.handler 1 "sweep")), ("everyDay", .function (.handler 2 "report"))]

def definition : Definition := ((Definition.read raw).result.toOption).getD default

/-- One of the three handlers fails. -/
def bound : World where
  runtime := { definition, phase := .bound, storage := some 0 }
  stores := [[]]
  scripts := [{ label := "poll" }, { label := "sweep" },
    { label := "report", fault := some "full" }]

/-- All ran a day ago. -/
def last : LastRun := .all (some ⟨Moment.day⟩)

def now : Moment := ⟨2 * Moment.day⟩

def due : Entries String Callable :=
  [("everyHour", .handler 1 "sweep"), ("everyDay", .handler 2 "report"),
    ("*/5 * * * *", .handler 0 "poll")]

theorem read_raw : (Definition.read raw).result = .ok definition := rfl

theorem dueHandlers_eq : definition.dueHandlers last now = due := rfl

theorem tested : definition.Tested last now := by
  constructor
  · intro name hname
    have hkeys : Entries.keys definition.schedules = ["everyHour", "everyDay"] := rfl
    rw [hkeys] at hname
    rcases List.mem_pair.mp hname with rfl | rfl
    · exact ⟨true, rfl⟩
    · exact ⟨true, rfl⟩
  · intro name hname
    have hkeys : Entries.keys definition.crons = ["*/5 * * * *"] := rfl
    rw [hkeys] at hname
    obtain rfl := List.mem_singleton.mp hname
    exact ⟨true, rfl⟩

end Crawler

/-- Three handlers are due; the second fails, and the third is not called. -/
theorem tick_exact_crawler :
    (Entries.keys Crawler.raw).Nodup ∧
      (Definition.read Crawler.raw).result = .ok Crawler.bound.definition ∧
      Crawler.definition.Tested Crawler.last Crawler.now ∧ Crawler.bound.Bound ∧
      Run.invoke.KeepsRuntime ∧ Crawler.bound.Ticks Crawler.last Crawler.now Crawler.due ∧
      ∃ e w', exec (tick Run.invoke Crawler.last Crawler.now) Crawler.bound = (.error e, w') ∧
        w'.calls = [(1, 1), (2, 1)] := by
  have hraw : (Entries.keys Crawler.raw).Nodup := by decide
  have hticks := (tick_exact (w := Crawler.bound) hraw Crawler.read_raw Crawler.tested).1
  refine ⟨hraw, Crawler.read_raw, Crawler.tested, ⟨rfl, 0, rfl⟩, keepsRuntime_invoke, ?_, _, _, rfl,
    rfl⟩
  exact Crawler.dueHandlers_eq ▸ hticks

end Entity
