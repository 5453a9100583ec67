import Entity.Value

/-!
# Journals

What happens while handlers, services and traced functions run, in order.
-/

namespace Entity

/-- Something that happened. -/
inductive Happening where
  /-- A handler with a label was called. -/
  | handled (label : String) (payload : Value) (arguments : Nat)
  /-- An action of a handler was completed. -/
  | acted (action : String) (result : Value)
  /-- A generation was asked for. -/
  | generated (request : Value)
  /-- A match for a value was asked for. -/
  | grounded (value : Value) (target : String)
  /-- Data was asked for. -/
  | fetched (endpoint : String) (params : Entries String String)
  /-- A traced function was called. -/
  | traced (label item : Value)
  deriving Inhabited

/-- What happened, in order. -/
abbrev Journal := List Happening

end Entity
