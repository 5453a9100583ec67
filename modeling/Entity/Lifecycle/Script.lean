import Entity.Value

/-!
# Scripted handlers

A handler as data: what it does through the context that it is given, and how each of its calls
ends. The first calls run the actions; a call then fails or answers a value.
-/

namespace Entity

/-- What a handler does through its context. -/
inductive Action where
  | create (id : Value) (data : Value)
  | put (id : Value) (data : Value)
  /-- Override data of the instance that the handler was called for. -/
  | patch (data : Entries String Value)
  | get (id : Value)
  | delete (id : Value)
  | instances
  | emit (event : Value) (payload : Value)
  | call (name : Value) (args : List Value)
  /-- Read a key of the storage. -/
  | stored (key : Value)
  /-- Read the context's own members. -/
  | identity
  deriving Inhabited

/-- The name of an action. -/
def Action.name : Action → String
  | create _ _ => "create"
  | put _ _ => "put"
  | patch _ => "patch"
  | get _ => "get"
  | delete _ => "delete"
  | instances => "instances"
  | emit _ _ => "emit"
  | call _ _ => "call"
  | stored _ => "storage"
  | identity => "identity"

/-- A scripted handler. -/
structure Script where
  label : String
  actions : List Action := []
  /-- How many calls run the actions. -/
  times : Nat := 1
  /-- The text of the fault that calls end with. -/
  fault : Option String := none
  /-- How many calls end with the fault; without a number, all. -/
  faultTimes : Option Nat := none
  /-- What the other calls answer. -/
  answer : Value := .null
  deriving Inhabited

/-- The actions of the `n`-th call, counted from 1. -/
def Script.actionsOf (s : Script) (n : Nat) : List Action :=
  if n ≤ s.times then s.actions else []

/-- The fault that the `n`-th call ends with, if it does. -/
def Script.faultOf (s : Script) (n : Nat) : Option String :=
  match s.faultTimes with
  | some limit => if n ≤ limit then s.fault else none
  | none => s.fault

end Entity
