import Entity.Cascade

/-!
# Fields

A parsed field of a definition: where its data comes from, the shape of the data, and what its
source needs: a generation, a cascade, a path, an aggregate, a reference type or a computation.
-/

namespace Entity

/-- Where a field's data comes from. -/
inductive Source where
  /-- Given by the user. -/
  | input
  /-- Made from a prompt. -/
  | generate
  /-- Computed in place. -/
  | compute
  /-- Fetched from outside. -/
  | sync
  /-- Rolled up from related instances. -/
  | aggregate
  /-- Matched with reference data. -/
  | fuzzy
  /-- A relationship to another type. -/
  | link
  deriving DecidableEq, Repr, Inhabited

/-- All sources. -/
def Source.all : List Source := [input, generate, compute, sync, aggregate, fuzzy, link]

/-- The name of a source. -/
def Source.name : Source → String
  | input => "input"
  | generate => "generate"
  | compute => "compute"
  | sync => "sync"
  | aggregate => "aggregate"
  | fuzzy => "fuzzy"
  | link => "link"

/-- The source with a name. -/
def Source.ofName? (name : String) : Option Source := all.find? fun s => s.name == name

/-- The shape of a field's data. -/
inductive Primitive where
  | string | number | date | boolean | enum | object | array
  deriving DecidableEq, Repr, Inhabited

/-- All shapes. -/
def Primitive.all : List Primitive := [string, number, date, boolean, enum, object, array]

/-- The name of a shape. -/
def Primitive.name : Primitive → String
  | string => "string"
  | number => "number"
  | date => "date"
  | boolean => "boolean"
  | enum => "enum"
  | object => "object"
  | array => "array"

/-- The shape with a name. -/
def Primitive.ofName? (name : String) : Option Primitive := all.find? fun p => p.name == name

/-- A prompt with the shape of its answer. -/
structure Generation where
  prompt : String
  schema : Option (Entries String Value) := none
  model : Option String := none
  /-- The placeholders of the prompt, in order of first appearance. -/
  placeholders : List String := []
  deriving Inhabited

/-- A roll-up over related instances; without a function the path is an expression that could not be
read. -/
structure Aggregate where
  function : Option AggregateFunction
  path : String
  deriving DecidableEq, Repr, Inhabited

/-- The text of an aggregate. -/
def Aggregate.toText (a : Aggregate) : String :=
  match a.function with
  | some f => f.name ++ "(" ++ a.path ++ ")"
  | none => a.path

/-- A parsed field. -/
structure Field where
  name : String
  description : String
  source : Source
  type : Primitive := .string
  /-- The alternatives of an enumeration. -/
  enumValues : Option (List String) := none
  /-- The fields of an object. -/
  nested : Option (List (String × Field)) := none
  /-- The element of an array. -/
  item : Option Field := none
  generation : Option Generation := none
  cascade : Option Cascade := none
  syncPath : Option String := none
  aggregate : Option Aggregate := none
  fuzzyTarget : Option String := none
  compute : Option Computation := none
  /-- Keys beside an explicit marker. -/
  options : List (String × Value) := []
  /-- What could not be read. -/
  issues : List String := []

namespace Field

instance : Inhabited Field := ⟨{ name := "", description := "", source := .input }⟩

/-- The field holds a list. -/
def isArray (f : Field) : Bool := f.type == .array

/-- The placeholders of the prompt. -/
def placeholders (f : Field) : List String := (f.generation.map Generation.placeholders).getD []

/-- The prompt of a generated field. -/
def prompt (f : Field) : Option String := f.generation.map Generation.prompt

/-- The options ask for a value. -/
def isRequired (f : Field) : Bool := (Value.lookup f.options "required").isTruthy

/-- The field cannot be set directly, by its options or else by its source. -/
def isReadonly (f : Field) : Bool :=
  match Entries.get? "readonly" f.options with
  | some v => v.isTruthy
  | none => f.source == .sync || f.source == .aggregate || f.source == .compute

end Field

/-! ## Functions of a definition -/

/-- What can be called by name: a computation, or a generation for the generator. -/
inductive FunctionField where
  | computation (c : Computation)
  | generation (g : Generation)
  deriving Inhabited

/-- The function that a field offers. -/
def Field.function? (f : Field) : Option FunctionField :=
  match f.source, f.compute, f.generation with
  | .compute, some c, _ => some (.computation c)
  | .generate, _, some g => some (.generation g)
  | _, _, _ => none

end Entity
