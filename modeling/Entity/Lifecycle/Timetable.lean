import Entity.Lifecycle.World
import Entity.Schedule.Cron
import Entity.Schedule.Interval

/-!
# Timetables

Schedules and cron expressions name handlers that run when they are due.  What is due at a moment is
fixed before any handler runs.
-/

namespace Entity

/-- When handlers ran last: all at one time or never, or each at its own. -/
inductive LastRun where
  | all (at_ : Option Moment)
  | each (moments : Entries String (Option Moment))
  deriving Inhabited

/-- When handlers ran last, as a value says: moments by name, or one moment for all. -/
def LastRun.ofValue : Value → LastRun
  | .map moments => each (Entries.mapValues Value.moment? moments)
  | v => all v.moment?

/-- When a handler ran last. -/
def LastRun.of : LastRun → String → Option Moment
  | all at_, _ => at_
  | each moments, name => (Entries.get? name moments).getD none

/-- The names that pass a test, in order. -/
def dueNames (isDue : String → Outcome Bool) : List String → Outcome (List String)
  | [] => return []
  | name :: names => do
    let due ← isDue name
    let rest ← dueNames isDue names
    return if due then name :: rest else rest

namespace Definition

/-- The schedules that are due. -/
def dueSchedules (d : Definition) (last : LastRun) (now : Moment) : Outcome (List String) :=
  dueNames (fun name => Interval.isDue name (last.of name) now) (Entries.keys d.schedules)

/-- The cron expressions that are due. -/
def dueCrons (d : Definition) (last : LastRun) (now : Moment) : Outcome (List String) :=
  dueNames (fun name => Cron.isDue name (last.of name) now) (Entries.keys d.crons)

/-- All that is due: schedules first, then cron expressions. -/
def due (d : Definition) (last : LastRun) (now : Moment) : Outcome (List String) := do
  let schedules ← d.dueSchedules last now
  let crons ← d.dueCrons last now
  return schedules ++ crons

/-- The handler of a schedule or a cron expression. -/
def timed? (d : Definition) (name : String) : Option Callable :=
  (Entries.get? name d.schedules).or (Entries.get? name d.crons)

end Definition

namespace Run

/-- Run the handler of a schedule or a cron expression. -/
def runSchedule (invoke : Invoke) (name : String) : Run Value := do
  let w ← get
  match w.definition.timed? name with
  | none => throw (.notFound .schedule name (some w.definition.type))
  | some handler =>
    let _ ← usable (.runSchedule name) [.bound]
    invoke handler [w.hooks]

/-- Run handlers in order. -/
def runSchedules (invoke : Invoke) : List String → Run Unit
  | [] => return ()
  | name :: names => do
    let _ ← runSchedule invoke name
    runSchedules invoke names

/-- Run all that is due; the names of what ran. -/
def tick (invoke : Invoke) (last : LastRun) (now : Moment) : Run (List String) := do
  let names ← ofOutcome ((← definition).due last now)
  runSchedules invoke names
  return names

end Run

end Entity
