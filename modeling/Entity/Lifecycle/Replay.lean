import Entity.Lifecycle.World
import Entity.Value.Text

/-!
# Services that replay answers

Services whose answers are laid down beforehand: a generator that goes through a list, a grounder
that matches by the text of a value, and a source of data that answers by endpoint.
-/

namespace Entity.Services

/-- The answers in turn, the last one again and again. -/
def answerInTurn (answers : List Value) (n : Nat) : Value :=
  (answers[min n (answers.length - 1)]?).getD .null

/-- Services with answers. -/
def replay (generated : Option (List Value)) (matched fetched : Option (Entries String Value)) :
    Services where
  generate := generated.map fun answers n _ => .ok (answerInTurn answers n)
  ground := matched.map fun answers v _ => .ok (Value.lookup answers v.shown)
  fetch := fetched.map fun answers e _ => .ok (Value.lookup answers e.endpoint)

end Entity.Services
