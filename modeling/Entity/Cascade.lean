import Entity.Value.Text

/-!
# Cascades

A cascade is a declared relationship of a type to another type: an operator, the type on the other
end and, as the case may be, a predicate there, a route parameter, filters and a prompt.
-/

namespace Entity

/-- The relationship operators. -/
inductive CascadeOperator where
  | fuzzyBidirectional | bidirectional | fuzzyIncoming | fuzzyOutgoing | incoming | outgoing
  deriving DecidableEq, Repr, Inhabited

namespace CascadeOperator

/-- All operators, longest token first. -/
def all : List CascadeOperator :=
  [fuzzyBidirectional, bidirectional, fuzzyIncoming, fuzzyOutgoing, incoming, outgoing]

/-- The token of an operator. -/
def token : CascadeOperator → String
  | fuzzyBidirectional => "<~>"
  | bidirectional => "<->"
  | fuzzyIncoming => "<~"
  | fuzzyOutgoing => "~>"
  | incoming => "<-"
  | outgoing => "->"

/-- The operator looks for similar instances. -/
def isFuzzy : CascadeOperator → Bool
  | fuzzyBidirectional | fuzzyIncoming | fuzzyOutgoing => true
  | _ => false

/-- The relationship goes both ways. -/
def isBidirectional : CascadeOperator → Bool
  | fuzzyBidirectional | bidirectional => true
  | _ => false

/-- The references point at the declaring type. -/
def isIncoming : CascadeOperator → Bool
  | fuzzyIncoming | incoming => true
  | _ => false

end CascadeOperator

/-! ## Filters -/

/-- The comparisons of filter clauses. -/
inductive Comparator where
  | eq | ne | ge | le | gt | lt
  deriving DecidableEq, Repr, Inhabited

/-- The token of a comparison. -/
def Comparator.token : Comparator → String
  | eq => "="
  | ne => "!="
  | ge => ">="
  | le => "<="
  | gt => ">"
  | lt => "<"

/-- The value that a filter clause compares with. -/
inductive FilterValue where
  | bool (b : Bool)
  | int (n : Int)
  | float (x : Binary64)
  | text (s : String)
  deriving DecidableEq, Repr, Inhabited

/-- The filter value as a value. -/
def FilterValue.toValue : FilterValue → Value
  | bool b => .bool b
  | int n => .int n
  | float x => .float x
  | text s => .text s

/-- The text of a filter value; truth values are written in lower case. -/
def FilterValue.toText : FilterValue → String
  | bool b => if b then "true" else "false"
  | int n => toString n
  | float x => x.toText Binary64.plainNames
  | text s => s

/-- A filter clause: a field compared with a value. -/
structure Filter where
  field : String
  comparator : Comparator
  value : FilterValue
  deriving DecidableEq, Repr, Inhabited

/-- The text of a filter clause. -/
def Filter.toText (f : Filter) : String := f.field ++ f.comparator.token ++ f.value.toText

/-! ## Functions -/

/-- What computes a value or selects the instances of a link. -/
inductive Computation where
  /-- A function, with its source text when that is known. -/
  | function (f : Callable) (source : Option String)
  /-- Code text that is never run in place. -/
  | code (text : String)
  deriving Inhabited

/-- The code text of a computation, when it is known. -/
def Computation.text? : Computation → Option String
  | function _ source => source
  | code text => some text

/-! ## Cascades -/

/-- A declared relationship to another type. -/
structure Cascade where
  operator : CascadeOperator
  target : String
  /-- The field on the other type that realises an incoming reference. -/
  predicate : Option String := none
  /-- Makes the field's instances addressable on their own. -/
  route : Option String := none
  filters : List Filter := []
  /-- Filter clauses without a comparison. -/
  rejected : List String := []
  /-- The text before the operator. -/
  prompt : Option String := none
  /-- Declared inside a list. -/
  isArray : Bool := false
  /-- The function that selects instances. -/
  selector : Option Computation := none
  deriving Inhabited

namespace Cascade

/-- The cascade has a prompt to generate from. -/
def isGenerative (c : Cascade) : Bool := (Text.nonEmpty? c.prompt).isSome

/-- The target with its predicate. -/
def qualifiedTarget (c : Cascade) : String :=
  match Text.nonEmpty? c.predicate with
  | some p => c.target ++ "." ++ p
  | none => c.target

/-- The prompt, or the target of a plain link. -/
def description (c : Cascade) : String := (Text.nonEmpty? c.prompt).getD c.qualifiedTarget

/-- The filters between square brackets; nothing for none. -/
def filterText : List Filter → String
  | [] => ""
  | filters => "[" ++ Text.join ", " (filters.map Filter.toText) ++ "]"

/-- The text of a cascade in the cascade grammar. -/
def toGrammar (c : Cascade) : String :=
  let body := c.operator.token ++ c.qualifiedTarget ++ filterText c.filters
  let prompted := match Text.nonEmpty? c.prompt with
    | some p => p ++ " " ++ body
    | none => body
  match Text.nonEmpty? c.route with
  | some r => ":" ++ r ++ " " ++ prompted
  | none => prompted

end Cascade

end Entity
