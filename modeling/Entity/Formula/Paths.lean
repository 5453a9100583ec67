import Entity.Failure
import Entity.Formula.Parser
import Entity.Formula.Writer

/-!
# Compiling formulas

A formula is an expression over the fields of a record: `bankBalance / monthlyBurn`.  It is compiled
to an anonymous function: every free name and every dotted path is looked up in the record, while
names that are bound in the formula and names that are always there stay as they are.
-/

namespace Entity.Formula

open Entity.Text

/-! ## Names that stay -/

/-- Names of errors and warnings that are always there. -/
def errorNames : List String :=
  ["ArithmeticError", "AssertionError", "AttributeError", "BaseException", "BaseExceptionGroup",
    "BlockingIOError", "BrokenPipeError", "BufferError", "BytesWarning", "ChildProcessError",
    "ConnectionAbortedError", "ConnectionError", "ConnectionRefusedError", "ConnectionResetError",
    "DeprecationWarning", "EOFError", "EncodingWarning", "EnvironmentError", "Exception",
    "ExceptionGroup", "FileExistsError", "FileNotFoundError", "FloatingPointError",
    "FutureWarning", "GeneratorExit", "IOError", "ImportError", "ImportWarning",
    "IndentationError", "IndexError", "InterruptedError", "IsADirectoryError", "KeyError",
    "KeyboardInterrupt", "LookupError", "MemoryError", "ModuleNotFoundError", "NameError",
    "NotADirectoryError", "NotImplementedError", "OSError", "OverflowError",
    "PendingDeprecationWarning", "PermissionError", "ProcessLookupError", "RecursionError",
    "ReferenceError", "ResourceWarning", "RuntimeError", "RuntimeWarning", "StopAsyncIteration",
    "StopIteration", "SyntaxError", "SyntaxWarning", "SystemError", "SystemExit", "TabError",
    "TimeoutError", "TypeError", "UnboundLocalError", "UnicodeDecodeError", "UnicodeEncodeError",
    "UnicodeError", "UnicodeTranslateError", "UnicodeWarning", "UserWarning", "ValueError",
    "Warning", "ZeroDivisionError"]

/-- Names of constants and functions that are always there. -/
def functionNames : List String :=
  ["Ellipsis", "False", "None", "NotImplemented", "True", "__build_class__", "__debug__",
    "__doc__", "__import__", "__loader__", "__name__", "__package__", "__spec__", "abs", "aiter",
    "all", "anext", "any", "ascii", "bin", "bool", "breakpoint", "bytearray", "bytes", "callable",
    "chr", "classmethod", "compile", "complex", "copyright", "credits", "delattr", "dict", "dir",
    "divmod", "enumerate", "eval", "exec", "exit", "filter", "float", "format", "frozenset",
    "getattr", "globals", "hasattr", "hash", "help", "hex", "id", "input", "int", "isinstance",
    "issubclass", "iter", "len", "license", "list", "locals", "map", "max", "memoryview", "min",
    "next", "object", "oct", "open", "ord", "pow", "print", "property", "quit", "range", "repr",
    "reversed", "round", "set", "setattr", "slice", "sorted", "staticmethod", "str", "sum",
    "super", "tuple", "type", "vars", "zip"]

/-- The name is always there. -/
def isAlwaysThere (id : String) : Bool := errorNames.contains id || functionNames.contains id

namespace Tree

mutual

/-- The names that a target binds. -/
def boundByTarget : Tree → List String
  | .name id => [id]
  | .starred t => boundByTarget t
  | .tuple ts => boundByTargets ts
  | .list ts => boundByTargets ts
  | _ => []

/-- The names that targets bind. -/
def boundByTargets : List Tree → List String
  | [] => []
  | t :: ts => boundByTarget t ++ boundByTargets ts

end

mutual

/-- The names that are bound anywhere in a tree: targets of comprehensions, names of bound values,
and parameters that take arguments by position or by name. -/
def boundNames : Tree → List String
  | .absent => []
  | .name _ => []
  | .literal _ => []
  | .formatted parts => boundNamesOfAll parts
  | .field value _ format => boundNames value ++ boundNamesOfAll format
  | .member value _ => boundNames value
  | .subscript value index => boundNames value ++ boundNames index
  | .slice low high step => boundNames low ++ boundNames high ++ boundNames step
  | .call function arguments => boundNames function ++ boundNamesOfAll arguments
  | .keyword _ value => boundNames value
  | .starred value => boundNames value
  | .unpacked value => boundNames value
  | .unary _ operand => boundNames operand
  | .binary _ left right => boundNames left ++ boundNames right
  | .boolean _ operands => boundNamesOfAll operands
  | .comparison _ operands => boundNamesOfAll operands
  | .conditional body test otherwise => boundNames body ++ boundNames test ++ boundNames otherwise
  | .lambda parameters body =>
    positionalNames parameters ++ boundNamesOfAll parameters ++ boundNames body
  | .parameter _ _ default => boundNames default
  | .tuple items => boundNamesOfAll items
  | .list items => boundNamesOfAll items
  | .set items => boundNamesOfAll items
  | .dict entries => boundNamesOfAll entries
  | .entry key value => boundNames key ++ boundNames value
  | .comprehension _ element clauses => boundNames element ++ boundNamesOfAll clauses
  | .clause _ target source conditions =>
    boundByTarget target ++ boundNames target ++ boundNames source ++ boundNamesOfAll conditions
  | .assigned id value => id :: boundNames value
  | .await value => boundNames value
  | .yield value => boundNames value
  | .yieldFrom value => boundNames value

/-- The names that are bound anywhere in trees. -/
def boundNamesOfAll : List Tree → List String
  | [] => []
  | t :: ts => boundNames t ++ boundNamesOfAll ts

end

/-! ## Lookups -/

/-- The names of a dotted path, from the first. -/
def path? : Tree → Option (List String)
  | .name id => some [id]
  | .member value id => (path? value).map (· ++ [id])
  | _ => none

/-- The lookup of a path in the record. -/
def lookup (record : String) (path : List String) : Tree :=
  .call (.name "_path") [.name record, .literal (.text (join "." path).toList false)]

/-- The lookup of a member of a value, given the value with its own lookups. -/
def lookupMember (record : String) (keep : String → Bool) (value inner : Tree) (id : String) :
    Tree :=
  match path? value with
  | some (root :: rest) =>
    if keep root then .member inner id else lookup record (root :: (rest ++ [id]))
  | _ => .member inner id

mutual

/-- The tree with every free name and dotted path looked up in the record; names to keep stay. -/
def withLookups (record : String) (keep : String → Bool) : Tree → Tree
  | .absent => .absent
  | .name id => if keep id then .name id else lookup record [id]
  | .literal l => .literal l
  | .formatted parts => .formatted (allWithLookups record keep parts)
  | .field value conversion format =>
    .field (withLookups record keep value) conversion (allWithLookups record keep format)
  | .member value id => lookupMember record keep value (withLookups record keep value) id
  | .subscript value index =>
    .subscript (withLookups record keep value) (withLookups record keep index)
  | .slice low high step =>
    .slice (withLookups record keep low) (withLookups record keep high)
      (withLookups record keep step)
  | .call function arguments =>
    .call (withLookups record keep function) (allWithLookups record keep arguments)
  | .keyword id value => .keyword id (withLookups record keep value)
  | .starred value => .starred (withLookups record keep value)
  | .unpacked value => .unpacked (withLookups record keep value)
  | .unary op operand => .unary op (withLookups record keep operand)
  | .binary op left right =>
    .binary op (withLookups record keep left) (withLookups record keep right)
  | .boolean op operands => .boolean op (allWithLookups record keep operands)
  | .comparison ops operands => .comparison ops (allWithLookups record keep operands)
  | .conditional body test otherwise =>
    .conditional (withLookups record keep body) (withLookups record keep test)
      (withLookups record keep otherwise)
  | .lambda parameters body =>
    .lambda (allWithLookups record keep parameters) (withLookups record keep body)
  | .parameter kind id default => .parameter kind id (withLookups record keep default)
  | .tuple items => .tuple (allWithLookups record keep items)
  | .list items => .list (allWithLookups record keep items)
  | .set items => .set (allWithLookups record keep items)
  | .dict entries => .dict (allWithLookups record keep entries)
  | .entry key value => .entry (withLookups record keep key) (withLookups record keep value)
  | .comprehension kind element clauses =>
    .comprehension kind (withLookups record keep element) (allWithLookups record keep clauses)
  | .clause isAsync target source conditions =>
    .clause isAsync (withLookups record keep target) (withLookups record keep source)
      (allWithLookups record keep conditions)
  | .assigned id value => .assigned id (withLookups record keep value)
  | .await value => .await (withLookups record keep value)
  | .yield value => .yield (withLookups record keep value)
  | .yieldFrom value => .yieldFrom (withLookups record keep value)

/-- The trees with their lookups. -/
def allWithLookups (record : String) (keep : String → Bool) : List Tree → List Tree
  | [] => []
  | t :: ts => withLookups record keep t :: allWithLookups record keep ts

end

end Tree

/-! ## Formulas -/

/-- The failure for a text that is no expression. -/
def SyntaxProblem.toFailure : SyntaxProblem → Failure
  | invalid => .fault .badSyntax "invalid syntax"
  | indentation => .fault .badIndentation "unexpected indent"
  | unpairedHalf => .fault .notEncodable "surrogates not allowed"

/-- The name of the record: the first of the parameters. -/
def recordName (parameters : String) : String :=
  trimmed ((pieces ',' parameters).headD "")

/-- The name of the record when nothing else is asked for. -/
def defaultRecord : String := "record"

/-- The body of the function that a formula is compiled to. -/
def compiledTree (record : String) (t : Tree) : Tree :=
  let bound := t.boundNames
  t.withLookups record fun id => isAlwaysThere id || bound.contains id

/-- The most trees that are nested in one another in the body of a function. -/
def nestingLimit : Nat := 329

/-- The text of the function, with the given parameters, that a formula is compiled to. -/
def compile (code parameters : String) : Except Failure String :=
  match expressionOf (trim code.toList) with
  | .error problem => .error problem.toFailure
  | .ok t =>
    let body := compiledTree (recordName parameters) t
    if nestingLimit < body.depth then
      .error (.fault .endlessRecursion "maximum recursion depth exceeded")
    else match body.toText with
      | some text => .ok ("lambda " ++ parameters ++ ": " ++ text)
      | none => .error (.fault .badValue "expression cannot be written")

end Entity.Formula
