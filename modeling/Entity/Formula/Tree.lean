import Entity.Formula.Literal

/-!
# Syntax trees

The tree of formula code.  Arguments, parameters, entries of displays and clauses of comprehensions
are trees of their own kinds, so that every tree has other trees as its only parts.
-/

namespace Entity.Formula

/-- Prefix operators. -/
inductive UnaryOperator where
  | invert | not | plus | minus
  deriving DecidableEq, Repr, Inhabited

/-- Operators between two operands, apart from comparisons. -/
inductive BinaryOperator where
  | add | subtract | multiply | matrixMultiply | divide | floorDivide | modulo | power
  | shiftLeft | shiftRight | bitOr | bitXor | bitAnd
  deriving DecidableEq, Repr, Inhabited

/-- Operators that stop at the first operand that decides. -/
inductive BooleanOperator where
  | or | and
  deriving DecidableEq, Repr, Inhabited

/-- Comparisons. -/
inductive ComparisonOperator where
  | eq | ne | lt | le | gt | ge | is | isNot | isIn | notIn
  deriving DecidableEq, Repr, Inhabited

/-- What a comprehension makes. -/
inductive ComprehensionKind where
  | generator | list | set | dict
  deriving DecidableEq, Repr, Inhabited

/-- How a parameter takes arguments. -/
inductive ParameterKind where
  /-- By position only. -/
  | positionalOnly
  /-- By position or by name. -/
  | positional
  /-- All other positional arguments. -/
  | rest
  /-- By name only. -/
  | keywordOnly
  /-- All other named arguments. -/
  | keywords
  deriving DecidableEq, Repr, Inhabited

/-- A syntax tree. -/
inductive Tree where
  /-- Nothing stands here. -/
  | absent
  | name (id : String)
  | literal (l : Literal)
  /-- A text with fields: literal texts and fields, in order. -/
  | formatted (parts : List Tree)
  /-- A field of a formatted text; the format is empty or one formatted text. -/
  | field (value : Tree) (conversion : Option Char) (format : List Tree)
  | member (value : Tree) (name : String)
  | subscript (value index : Tree)
  | slice (low high step : Tree)
  | call (function : Tree) (arguments : List Tree)
  /-- An argument with a name. -/
  | keyword (name : String) (value : Tree)
  /-- An unpacked sequence. -/
  | starred (value : Tree)
  /-- An unpacked mapping. -/
  | unpacked (value : Tree)
  | unary (op : UnaryOperator) (operand : Tree)
  | binary (op : BinaryOperator) (left right : Tree)
  | boolean (op : BooleanOperator) (operands : List Tree)
  /-- A chain of comparisons; there is one operand more than there are operators. -/
  | comparison (operators : List ComparisonOperator) (operands : List Tree)
  | conditional (body test otherwise : Tree)
  | lambda (parameters : List Tree) (body : Tree)
  | parameter (kind : ParameterKind) (name : String) (default : Tree)
  | tuple (items : List Tree)
  | list (items : List Tree)
  | set (items : List Tree)
  | dict (entries : List Tree)
  | entry (key value : Tree)
  | comprehension (kind : ComprehensionKind) (element : Tree) (clauses : List Tree)
  | clause (isAsync : Bool) (target source : Tree) (conditions : List Tree)
  /-- A value with a name that is bound to it. -/
  | assigned (name : String) (value : Tree)
  | await (value : Tree)
  | yield (value : Tree)
  | yieldFrom (value : Tree)
  deriving Repr, Inhabited

namespace Tree

/-- There is a tree. -/
def isPresent : Tree → Bool
  | absent => false
  | _ => true

/-- The names of the parameters that take arguments by position or by name. -/
def positionalNames (parameters : List Tree) : List String :=
  parameters.filterMap fun
    | parameter .positional id _ => some id
    | _ => none

/-! ## Targets -/

mutual

/-- The tree can be bound: a name, a member, a subscript, or a display or unpacking of such. -/
def isTarget : Tree → Bool
  | name _ => true
  | member _ _ => true
  | subscript _ _ => true
  | starred (starred _) => false
  | starred t => isTarget t
  | tuple ts => areTargets ts
  | list ts => areTargets ts
  | _ => false

/-- All trees can be bound. -/
def areTargets : List Tree → Bool
  | [] => true
  | t :: ts => isTarget t && areTargets ts

end

/-! ## Depth -/

mutual

/-- How many trees are nested in one another; an entry adds nothing to its key and value. -/
def depth : Tree → Nat
  | absent => 0
  | name _ => 1
  | literal _ => 1
  | formatted parts => 1 + depthOfAll parts
  | field value _ format => 1 + max (depth value) (depthOfAll format)
  | member value _ => 1 + depth value
  | subscript value index => 1 + max (depth value) (depth index)
  | slice low high step => 1 + max (depth low) (max (depth high) (depth step))
  | call function arguments => 1 + max (depth function) (depthOfAll arguments)
  | keyword _ value => 1 + depth value
  | starred value => 1 + depth value
  | unpacked value => 1 + depth value
  | unary _ operand => 1 + depth operand
  | binary _ left right => 1 + max (depth left) (depth right)
  | boolean _ operands => 1 + depthOfAll operands
  | comparison _ operands => 1 + depthOfAll operands
  | conditional body test otherwise => 1 + max (depth body) (max (depth test) (depth otherwise))
  | lambda parameters body => 1 + max (depthOfAll parameters) (depth body)
  | parameter _ _ default => 1 + depth default
  | tuple items => 1 + depthOfAll items
  | list items => 1 + depthOfAll items
  | set items => 1 + depthOfAll items
  | dict entries => 1 + depthOfAll entries
  | entry key value => max (depth key) (depth value)
  | comprehension _ element clauses => 1 + max (depth element) (depthOfAll clauses)
  | clause _ target source conditions =>
    1 + max (max (depth target) (depth source)) (depthOfAll conditions)
  | assigned _ value => 1 + depth value
  | await value => 1 + depth value
  | yield value => 1 + depth value
  | yieldFrom value => 1 + depth value

/-- The depth of the deepest of some trees. -/
def depthOfAll : List Tree → Nat
  | [] => 0
  | t :: ts => max (depth t) (depthOfAll ts)

end

/-! ## Single targets -/

/-- The tree is a name, a member or a subscript. -/
def isSingleTarget : Tree → Bool
  | name _ => true
  | member _ _ => true
  | subscript _ _ => true
  | _ => false

end Tree

end Entity.Formula
