import Entity.Failure

/-!
# Outcomes

The outcome of a computation that may fail and that logs warnings on its way.  Warnings logged
before a failure are kept.  Main statement: the warnings of a sequence are those of its first part
followed by those of its second.
-/

namespace Entity

/-- What is worth a warning. -/
inductive Warning where
  /-- A filter clause of a cascade text has no comparison in it. -/
  | droppedClause (clause text : String)
  /-- A field value could only partly be read. -/
  | fieldIssue (field issue : String)
  | migrationAhead (type : String) (target : Nat) (version : Int)
  | migrationFailed (type : String) (target : Nat) (cause : String)
  | unknownInterval (name : String)
  /-- A cron expression has not five fields. -/
  | cronShape (expression : String)
  /-- A field of a cron expression is not a number. -/
  | cronField (expression : String)
  | noSource (field : String)
  | invalidCode (field : String)
  /-- Function fields have names that the handler context keeps for itself. -/
  | shadowedFunctions (type : String) (names : String)
  deriving DecidableEq, Repr, Inhabited

/-- The wording of a warning. -/
def Warning.message : Warning → String
  | droppedClause clause text =>
    "Dropped unparseable filter clause " ++ Text.quoted clause ++ " in " ++ Text.quoted text
  | fieldIssue field issue => "Field " ++ Text.quoted field ++ ": " ++ issue
  | migrationAhead type target version =>
    type ++ ": migration to version " ++ toString target ++ " is ahead of definition version " ++
      toString version ++ " and will not run"
  | migrationFailed type target cause =>
    type ++ ": migration to version " ++ toString target ++ " failed: " ++ cause
  | unknownInterval name => "Unrecognised schedule interval: " ++ name
  | cronShape expression => "Invalid cron expression (need 5 fields): " ++ expression
  | cronField expression => "Invalid cron expression: " ++ expression
  | noSource field => field ++ ": no source captured; generated entry raises when called"
  | invalidCode field => field ++ ": code is not valid Python; generated entry raises when called"
  | shadowedFunctions type names =>
    type ++ " functions " ++ names ++
      " collide with context identity and are only reachable via call()"

/-- A result or a failure, with the warnings logged before it. -/
structure Outcome (α : Type) where
  result : Except Failure α
  warnings : List Warning
  deriving Inhabited

namespace Outcome

variable {α β : Type}

/-- A result without warnings. -/
def ok (a : α) : Outcome α := ⟨.ok a, []⟩

/-- A failure without warnings. -/
def fail (e : Failure) : Outcome α := ⟨.error e, []⟩

/-- Log a warning. -/
def warn (w : Warning) : Outcome Unit := ⟨.ok (), [w]⟩

/-- Log warnings, in order. -/
def warnAll (ws : List Warning) : Outcome Unit := ⟨.ok (), ws⟩

/-- Go on with the result; a failure ends the sequence. -/
def andThen (x : Outcome α) (f : α → Outcome β) : Outcome β :=
  match x.result with
  | .error e => ⟨.error e, x.warnings⟩
  | .ok a => ⟨(f a).result, x.warnings ++ (f a).warnings⟩

instance : Monad Outcome where
  pure := ok
  bind := andThen

instance : MonadExceptOf Failure Outcome where
  throw := fail
  tryCatch x handle :=
    match x.result with
    | .ok a => ⟨.ok a, x.warnings⟩
    | .error e => ⟨(handle e).result, x.warnings ++ (handle e).warnings⟩

instance : MonadLift (Except Failure) Outcome where
  monadLift x := ⟨x, []⟩

@[simp] theorem result_ok (a : α) : (ok a).result = .ok a := rfl

@[simp] theorem warnings_ok (a : α) : (ok a).warnings = [] := rfl

/-- A failure of the first part is the failure of the sequence. -/
theorem result_andThen (x : Outcome α) (f : α → Outcome β) :
    (x.andThen f).result = x.result.bind fun a => (f a).result := by
  unfold andThen
  split <;> simp_all [Except.bind]

/-- Warnings come in the order of the sequence. -/
theorem warnings_andThen (x : Outcome α) (f : α → Outcome β) :
    (x.andThen f).warnings = x.warnings ++
      (match x.result with
        | .error _ => []
        | .ok a => (f a).warnings) := by
  unfold andThen
  split <;> simp_all

end Outcome

/-- Messages in order, a message equal to the one just before it left out. -/
def withoutRepeats : List String → List String
  | [] => []
  | [m] => [m]
  | m :: m' :: ms => if m = m' then withoutRepeats (m' :: ms) else m :: withoutRepeats (m' :: ms)

end Entity
