import Entity.Formula.Tree
import Entity.Number.Shortest
import Entity.Text.Quoted
import Entity.Text.Split

/-!
# Writing expressions

A tree is written with as few brackets as its operators need.  Some trees cannot be written: an
expression within a formatted text must not need a backslash, and an integer must not be too long.
-/

namespace Entity.Formula

open Entity.Text

/-! ## Levels -/

/-- How tightly a tree holds together; a looser tree in a tighter place stands in brackets. -/
abbrev Level := Nat

namespace Level

/-- A bound value. -/
def named : Level := 0

/-- Items with commas. -/
def tuple : Level := 1

/-- What a generator gives. -/
def yield : Level := 2

/-- Conditionals and functions. -/
def test : Level := 3

/-- Operands of comparisons, at the least. -/
def comparison : Level := 7

/-- The loosest operator that is no comparison. -/
def bitOr : Level := 8

/-- Signs. -/
def sign : Level := 14

/-- Powers. -/
def power : Level := 15

/-- An awaited value. -/
def await : Level := 16

/-- What needs no brackets anywhere. -/
def atom : Level := 17

/-- The next tighter level. -/
def next (l : Level) : Level := min (l + 1) atom

end Level

/-- The mark of a prefix operator, with the blank after it. -/
def UnaryOperator.mark : UnaryOperator → String
  | invert => "~"
  | not => "not "
  | plus => "+"
  | minus => "-"

/-- The level of a prefix operator. -/
def UnaryOperator.level : UnaryOperator → Level
  | not => 6
  | _ => Level.sign

/-- The mark of an operator. -/
def BinaryOperator.mark : BinaryOperator → String
  | add => "+"
  | subtract => "-"
  | multiply => "*"
  | matrixMultiply => "@"
  | divide => "/"
  | floorDivide => "//"
  | modulo => "%"
  | power => "**"
  | shiftLeft => "<<"
  | shiftRight => ">>"
  | bitOr => "|"
  | bitXor => "^"
  | bitAnd => "&"

/-- The level of an operator. -/
def BinaryOperator.level : BinaryOperator → Level
  | bitOr => Level.bitOr
  | bitXor => 9
  | bitAnd => 10
  | shiftLeft | shiftRight => 11
  | add | subtract => 12
  | multiply | matrixMultiply | divide | floorDivide | modulo => 13
  | power => Level.power

/-- The levels of the operands; a power binds to the right, all others to the left. -/
def BinaryOperator.operandLevels (op : BinaryOperator) : Level × Level :=
  match op with
  | power => (Level.next op.level, op.level)
  | _ => (op.level, Level.next op.level)

/-- The word of an operator between operands that decide. -/
def BooleanOperator.word : BooleanOperator → String
  | or => "or"
  | and => "and"

/-- The level of an operator between operands that decide. -/
def BooleanOperator.level : BooleanOperator → Level
  | or => 4
  | and => 5

/-- The mark of a comparison. -/
def ComparisonOperator.mark : ComparisonOperator → String
  | eq => "=="
  | ne => "!="
  | lt => "<"
  | le => "<="
  | gt => ">"
  | ge => ">="
  | is => "is"
  | isNot => "is not"
  | isIn => "in"
  | notIn => "not in"

/-- Text in brackets, if the condition holds. -/
def bracketsIf (condition : Bool) (cs : List Char) : List Char :=
  if condition then '(' :: (cs ++ [')']) else cs

/-! ## Text literals -/

/-- Quotes that a text may stand between, by preference. -/
def quotePairs : List (List Char) := ["'", "\"", "\"\"\"", "'''"].map String.toList

/-- A character of a text, escaped if it has to be; line feeds and tabs are kept on demand. -/
def escapedChar (keepBlanks : Bool) (c : Char) : List Char :=
  if keepBlanks && (c == '\n' || c == '\t') then [c]
  else if c = '\\' then ['\\', '\\']
  else if c = '\n' then ['\\', 'n']
  else if c = '\r' then ['\\', 'r']
  else if c = '\t' then ['\\', 't']
  else if isPrintable c then [c]
  else codeEscape (codeOf c)

/-- The quotes that the text can stand between, and the text as it is written there. -/
def fitText (quotes : List (List Char)) (keepBlanks : Bool) (s : List Char) :
    List Char × List (List Char) :=
  let body := s.flatMap (escapedChar keepBlanks)
  let wide := if body.contains '\n' then quotes.filter fun q => q.length == 3 else quotes
  let fitting := wide.filter fun q => !contains q body
  match fitting, body.getLast? with
  | [], _ =>
    let plain := quotedChars s
    let quote := plain.take 1
    ((plain.drop 1).dropLast, [(quotes.find? fun q => contains quote q).getD quote])
  | _, none => (body, fitting)
  | _, some last =>
    let clashes (q : List Char) : Bool := q.head? == some last
    let sorted := fitting.filter (!clashes ·) ++ fitting.filter clashes
    if (sorted.head?.map clashes).getD false then (body.dropLast ++ ['\\', last], sorted)
    else (body, sorted)

/-- A text between quotes, with as few backslashes as possible. -/
def writeAvoidingBackslashes (s : List Char) : List Char :=
  let (body, quotes) := fitText quotePairs true s
  let quote := quotes.headD []
  quote ++ body ++ quote

/-- Fit the parts of a formatted text, one after the other, between the same quotes. -/
def fitParts (quotes : List (List Char)) :
    List (List Char × Bool) → Option (List Char × List (List Char))
  | [] => some ([], quotes)
  | (s, isText) :: parts =>
    let (body, left) := fitText quotes (!isText) s
    if left.all fun q => !quotes.contains q then none
    else (fitParts left parts).map fun (rest, quotes) => (body ++ rest, quotes)

/-- A part of a formatted text between three single quotes. -/
def escapedPart (s : List Char) : List Char := ((quotedChars ('"' :: s)).drop 2).dropLast

/-- The parts of a formatted text between quotes; a part is literal text or a field. -/
def writeParts (parts : List (List Char × Bool)) : List Char :=
  match fitParts quotePairs parts with
  | some (body, quotes) =>
    let quote := quotes.headD []
    quote ++ body ++ quote
  | none => "'''".toList ++ parts.flatMap (fun p => escapedPart p.1) ++ "'''".toList

/-- Literal text in a formatted text: braces are doubled. -/
def doubledBraces (cs : List Char) : List Char :=
  cs.flatMap fun c => if c = '\x7b' ∨ c = '\x7d' then [c, c] else [c]

/-! ## Literals -/

/-- The names of numbers that are not finite: an overflowing number, and a difference of such. -/
def overflowNames : Binary64.SpecialNames := ⟨"1e309", "(1e309-1e309)"⟩

/-- A multiple of the imaginary unit; a whole number has no point. -/
def imaginaryText (x : Binary64) : List Char :=
  let cs := (x.toText overflowNames).toList
  (if endsWith ".0".toList cs then cs.dropLast.dropLast else cs) ++ ['j']

/-- The most digits of an integer. -/
def digitLimit : Nat := 4300

/-- An integer in decimal digits. -/
def writeInteger (n : Nat) : Option (List Char) :=
  if powerOf 10 digitLimit ≤ n then none else some (Nat.toDigits 10 n)

/-- A literal. -/
def Literal.write (avoid : Bool) : Literal → Option (List Char)
  | nothing => some "None".toList
  | bool b => some (if b then "True" else "False").toList
  | ellipsis => some "...".toList
  | int n => writeInteger n
  | float x => some (x.toText overflowNames).toList
  | imaginary x => some (imaginaryText x)
  | text s marked =>
    let body := if avoid then writeAvoidingBackslashes s else quotedChars s
    some (if marked then 'u' :: body else body)
  | bytes bs => some (quotedBytes bs).toList

/-! ## Trees -/

/-- Items with commas; a single item has a comma after it. -/
def tupleItems (items : List (List Char)) : List Char :=
  match items with
  | [item] => item ++ [',']
  | _ => joinWith ", ".toList items

/-- The brackets of a comprehension. -/
def ComprehensionKind.brackets : ComprehensionKind → Char × Char
  | generator => ('(', ')')
  | list => ('[', ']')
  | set => ('\x7b', '\x7d')
  | dict => ('\x7b', '\x7d')

/-- What stands before the name of a parameter. -/
def ParameterKind.mark : ParameterKind → String
  | rest => "*"
  | keywords => "**"
  | _ => ""

/-- The parameters are those by position only. -/
def isPositionalOnly : Tree → Bool
  | .parameter .positionalOnly _ _ => true
  | _ => false

/-- The parameter takes arguments by name only. -/
def isKeywordOnly : Tree → Bool
  | .parameter .keywordOnly _ _ => true
  | _ => false

/-- The parameter takes the remaining arguments. -/
def isRest : Tree → Bool
  | .parameter .rest _ _ => true
  | _ => false

/-- Put the slash after the parameters by position only, and a star before those by name only if no
parameter takes the remaining arguments. -/
def markedParameters (parameters : List Tree) (texts : List (List Char)) : List (List Char) :=
  let firsts := (parameters.filter isPositionalOnly).length
  let afterSlash := texts.drop firsts
  let slashed := if firsts = 0 then [] else texts.take firsts ++ [['/']]
  let plain := ((parameters.drop firsts).takeWhile (!isKeywordOnly ·)).length
  if parameters.any isKeywordOnly && !parameters.any isRest then
    slashed ++ afterSlash.take plain ++ [['*']] ++ afterSlash.drop plain
  else slashed ++ afterSlash

/-- A number before a point has a blank after it. -/
def spaceBeforePoint : Tree → List Char
  | .literal (.int _) => [' ']
  | .literal (.bool _) => [' ']
  | _ => []

/-- Operands with the marks between them. -/
def interleave : List (List Char) → List (List Char) → List Char
  | [], operands => operands.flatten
  | m :: marks, operand :: operands =>
    operand ++ ' ' :: (m ++ ' ' :: interleave marks operands)
  | _ :: _, [] => []

/-- The level of an index: items with commas need no brackets there. -/
def indexLevel : Tree → Level
  | .tuple _ => Level.tuple
  | _ => Level.test

/-- A field between its braces, from the texts of its expression and of its format; the expression
must do without backslashes. -/
def fieldText (e : List Char) (conversion : Option Char) (isPlain : Bool) (format : List Char) :
    Option (List Char) :=
  if e.contains '\\' then none
  else
    let spaced := if e.head? = some '\x7b' then ' ' :: e else e
    let shown := conversion.toList.flatMap fun c => ['!', c]
    let spec := if isPlain then [] else ':' :: format
    some ('\x7b' :: (spaced ++ shown ++ spec ++ ['\x7d']))

mutual

/-- A tree in a place of a level; `avoid` asks for as few backslashes as possible. -/
def write (avoid : Bool) (level : Level) : Tree → Option (List Char)
  | .absent => some []
  | .name id => some id.toList
  | .literal l => l.write avoid
  | .formatted parts => do
    if avoid then return 'f' :: writeAvoidingBackslashes (← writeInner parts)
    else return 'f' :: writeParts (← partTexts parts)
  | .field value conversion format => do
    fieldText (← write true (Level.next Level.test) value) conversion format.isEmpty
      (← writeInner format)
  | .member value id => do
    return (← write avoid Level.atom value) ++ spaceBeforePoint value ++ '.' :: id.toList
  | .subscript value index => do
    let inside ← write avoid (indexLevel index) index
    return (← write avoid Level.atom value) ++ '[' :: (inside ++ [']'])
  | .slice low high step => do
    let bounds := (← write avoid Level.test low) ++ ':' :: (← write avoid Level.test high)
    if step.isPresent then return bounds ++ ':' :: (← write avoid Level.test step)
    else return bounds
  | .call function arguments => do
    let args ← writeAll avoid Level.test arguments
    return (← write avoid Level.atom function) ++ '(' :: (joinWith ", ".toList args ++ [')'])
  | .keyword id value => do
    return id.toList ++ '=' :: (← write avoid Level.test value)
  | .starred value => do return '*' :: (← write avoid Level.bitOr value)
  | .unpacked value => do return '*' :: '*' :: (← write avoid level value)
  | .unary op operand => do
    let body := op.mark.toList ++ (← write avoid op.level operand)
    return bracketsIf (op.level < level) body
  | .binary op left right => do
    let (l, r) := op.operandLevels
    let body := interleave [op.mark.toList] [← write avoid l left, ← write avoid r right]
    return bracketsIf (op.level < level) body
  | .boolean op operands => do
    let texts ← writeRising avoid op.level operands
    let body := joinWith (' ' :: (op.word.toList ++ [' '])) texts
    return bracketsIf (op.level < level) body
  | .comparison operators operands => do
    let texts ← writeAll avoid (Level.next Level.comparison) operands
    let body := interleave (operators.map fun op => op.mark.toList) texts
    return bracketsIf (Level.comparison < level) body
  | .conditional body test otherwise => do
    let b ← write avoid (Level.next Level.test) body
    let t ← write avoid (Level.next Level.test) test
    let o ← write avoid Level.test otherwise
    return bracketsIf (Level.test < level) (interleave ["if".toList, "else".toList] [b, t, o])
  | .lambda parameters body => do
    let texts ← writeAll avoid Level.test parameters
    let ps := joinWith ", ".toList (markedParameters parameters texts)
    let start := if ps.isEmpty then "lambda".toList else "lambda ".toList ++ ps
    return bracketsIf (Level.test < level)
      (start ++ ':' :: ' ' :: (← write avoid Level.test body))
  | .parameter kind id default => do
    let named := kind.mark.toList ++ id.toList
    if default.isPresent then return named ++ '=' :: (← write avoid Level.test default)
    else return named
  | .tuple items => do
    let texts ← writeAll avoid Level.test items
    return bracketsIf (items.isEmpty || Level.tuple < level) (tupleItems texts)
  | .list items => do
    return '[' :: (joinWith ", ".toList (← writeAll avoid Level.test items) ++ [']'])
  | .set items => do
    return '\x7b' :: (joinWith ", ".toList (← writeAll avoid Level.test items) ++ ['\x7d'])
  | .dict entries => do
    return '\x7b' :: (joinWith ", ".toList (← writeAll avoid Level.bitOr entries) ++ ['\x7d'])
  | .entry key value => do
    return (← write avoid Level.test key) ++ ':' :: ' ' :: (← write avoid Level.test value)
  | .comprehension kind element clauses => do
    let (o, c) := kind.brackets
    return o :: ((← write avoid Level.test element) ++
      (← writeAll avoid Level.test clauses).flatten ++ [c])
  | .clause isAsync target source conditions => do
    let word := if isAsync then " async for " else " for "
    let tests ← writeAll avoid (Level.next Level.test) conditions
    return word.toList ++ (← write avoid Level.tuple target) ++ " in ".toList ++
      (← write avoid (Level.next Level.test) source) ++
      tests.flatMap fun t => " if ".toList ++ t
  | .assigned id value => do
    return bracketsIf (Level.named < level)
      (id.toList ++ " := ".toList ++ (← write avoid Level.atom value))
  | .await value => do
    return bracketsIf (Level.await < level) ("await ".toList ++ (← write avoid Level.atom value))
  | .yield value => do
    let body ←
      if value.isPresent then (write avoid Level.atom value).map ("yield ".toList ++ ·)
      else some "yield".toList
    return bracketsIf (Level.yield < level) body
  | .yieldFrom value => do
    return bracketsIf (Level.yield < level)
      ("yield from ".toList ++ (← write avoid Level.atom value))

/-- Trees in places of one level. -/
def writeAll (avoid : Bool) (level : Level) : List Tree → Option (List (List Char))
  | [] => some []
  | t :: ts => do return (← write avoid level t) :: (← writeAll avoid level ts)

/-- Trees in places of rising levels, each tighter than the one before. -/
def writeRising (avoid : Bool) (level : Level) : List Tree → Option (List (List Char))
  | [] => some []
  | t :: ts => do
    let next := Level.next level
    return (← write avoid next t) :: (← writeRising avoid next ts)

/-- The parts of a formatted text one after the other, without quotes. -/
def writeInner : List Tree → Option (List Char)
  | [] => some []
  | t :: ts => do return (← writePart t) ++ (← writeInner ts)

/-- A part of a formatted text, without quotes. -/
def writePart : Tree → Option (List Char)
  | .literal (.text s _) => some (doubledBraces s)
  | .formatted parts => writeInner parts
  | .field value conversion format => do
    fieldText (← write true (Level.next Level.test) value) conversion format.isEmpty
      (← writeInner format)
  | _ => none

/-- The parts of a formatted text, each with whether it is literal text. -/
def partTexts : List Tree → Option (List (List Char × Bool))
  | [] => some []
  | t :: ts => do
    let isText := match t with
      | .literal _ => true
      | _ => false
    return (← writePart t, isText) :: (← partTexts ts)

end

/-- The text of an expression that stands alone. -/
def Tree.toText (t : Tree) : Option String := (write false Level.test t).map String.ofList

end Entity.Formula
