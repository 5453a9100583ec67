import Entity.Formula.Paths
import Entity.Formula.Statement

/-!
# Source texts of functions

A function is written as a lambda expression, as a named function, or as a formula.  Here texts are
told apart, brought to the left margin, and a lambda expression is found in the text around it.
-/

namespace Entity.Formula

open Entity.Text

/-! ## Margins -/

/-- A blank or a tab. -/
def isMarginBlank (c : Char) : Bool := c == ' ' || c == '\t'

/-- The common start of two texts. -/
def commonStart : List Char → List Char → List Char
  | a :: as, b :: bs => if a = b then a :: commonStart as bs else []
  | _, _ => []

/-- The lines of a text, those of blanks only being empty. -/
def marginLines (cs : List Char) : List (List Char) :=
  (splitAt '\n' cs).map fun line => if line.all isMarginBlank then [] else line

/-- The blanks that all lines but the empty ones begin with. -/
def margin (lines : List (List Char)) : List Char :=
  match lines.filter (!·.isEmpty) with
  | [] => []
  | line :: rest =>
    rest.foldl (fun m l => commonStart m (l.takeWhile isMarginBlank)) (line.takeWhile isMarginBlank)

/-- The text without the margin of its lines. -/
def dedent (cs : List Char) : List Char :=
  let lines := marginLines cs
  let m := (margin lines).length
  joinWith ['\n'] (lines.map (List.drop m))

/-! ## Kinds of text -/

/-- The text is a lambda expression or a named function, and no formula. -/
def isFunctionSource (cs : List Char) : Bool :=
  let body := trimStart cs
  ["lambda", "def ", "async def "].any fun start => beginsWith start.toList body

/-- The name of the first function that a piece of code defines. -/
def functionName? (cs : List Char) : Except Failure (Option String) :=
  match statementsOf (dedent cs) with
  | .ok ss => .ok (ss.findSome? fun
    | .function name => some name
    | .other => none)
  | .error .unpairedHalf => .error SyntaxProblem.unpairedHalf.toFailure
  | .error _ => .ok none

/-- The text after the lines at its start that hold decorators. -/
def withoutDecorators (cs : List Char) : List Char :=
  ((linesWithEnds cs).dropWhile fun line => beginsWith ['@'] (trimStart line)).flatten

/-! ## Lambda expressions in a text -/

/-- A character before which an expression within a larger one may end. -/
def mayEndExpression (c : Char) : Bool :=
  c == ',' || c == ')' || c == ']' || c == '\x7d' || c == '\n' || c == '#'

/-- The places where an expression at the start of a text may end, the last first. -/
def expressionEnds (cs : List Char) : List Nat :=
  let inner := (cs.zipIdx.filter fun (c, i) => 0 < i && mayEndExpression c).map Prod.snd
  cs.length :: inner.reverse

/-- A lambda expression: its text, and the names of its positional parameters. -/
structure FoundLambda where
  text : List Char
  parameters : List String
  deriving DecidableEq, Repr, Inhabited

/-- The lambda expression that a text is. -/
def lambdaOf? (cs : List Char) : Option FoundLambda :=
  match expressionOf cs with
  | .ok (.lambda parameters _) => some ⟨cs, Tree.positionalNames parameters⟩
  | _ => none

/-- The longest lambda expression at the start of a text. -/
def longestLambda? (cs : List Char) : Option FoundLambda :=
  (expressionEnds cs).findSome? fun n => lambdaOf? (trim (cs.take n))

/-- The parts of a text from each occurrence of the word on. -/
def occurrences (word : List Char) : List Char → List (List Char)
  | [] => []
  | c :: cs =>
    if beginsWith word (c :: cs) then (c :: cs) :: occurrences word cs else occurrences word cs

/-- The first lambda expression in a text whose positional parameters have the expected names, if
names are expected. -/
def extractLambda? (cs : List Char) (expected : Option (List String)) :
    Except Failure (Option String) :=
  let starts := occurrences "lambda".toList cs
  if starts.any (·.any holdsHalf) then .error SyntaxProblem.unpairedHalf.toFailure
  else .ok <| (starts.findSome? fun start =>
    (longestLambda? start).filter fun found =>
      match expected with
      | some names => found.parameters == names
      | none => true).map fun found => String.ofList found.text

end Entity.Formula
