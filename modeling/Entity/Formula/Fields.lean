import Entity.Formula.Tree
import Entity.Text.Split

/-!
# Fields in formatted texts

A formatted text has fields between braces; a doubled brace stands for one brace.  Here the text is
cut into literal runs and the expressions of fields, which hold no backslash and no comment.
-/

namespace Entity.Formula

open Entity.Text

/-! ## Literal runs -/

/-- A run of literal text: the run, whether more literal text follows it, and the rest.  At the top
a brace is doubled or begins a field; in a format every brace ends the run. -/
structure LiteralRun where
  literal : List Char
  continues : Bool
  rest : List Char

/-- Put characters before a run. -/
def LiteralRun.before (cs : List Char) (r : LiteralRun) : LiteralRun :=
  { r with literal := cs ++ r.literal }

/-- The run that ends at a brace. -/
def atBrace? (top : Bool) (brace : Char) (cs : List Char) : Option LiteralRun :=
  if !top then some ⟨[], false, brace :: cs⟩
  else if cs.head? = some brace then some ⟨[brace], true, cs.tail⟩
  else if brace = '\x7d' then none
  else some ⟨[], false, brace :: cs⟩

/-- The literal run at the start of a text; `named` says that the text begins with the name of a
character, the closing brace of which is literal too. -/
def literalRun? (isRaw top : Bool) : (named : Bool) → List Char → Option LiteralRun
  | _, [] => some ⟨[], false, []⟩
  | true, c :: cs => (literalRun? isRaw top (c != '\x7d') cs).map (LiteralRun.before [c])
  | false, '\\' :: c :: cs =>
    if isRaw then (literalRun? isRaw top false (c :: cs)).map (LiteralRun.before ['\\'])
    else if c = '\x7b' ∨ c = '\x7d' then (atBrace? top c cs).map (LiteralRun.before ['\\'])
    else (literalRun? isRaw top (c == 'N' && cs.head? == some '\x7b') cs).map
      (LiteralRun.before ['\\', c])
  | false, c :: cs =>
    if c = '\x7b' ∨ c = '\x7d' then atBrace? top c cs
    else (literalRun? isRaw top false cs).map (LiteralRun.before [c])

/-! ## Expressions -/

/-- Where the scan of an expression stands: the brackets that are open, and the quote of a text with
its width. -/
structure FieldScan where
  opened : List Char := []
  quote : Option (Char × Nat) := none

/-- A character that may end an expression outside brackets. -/
def mayEndField (c : Char) : Bool :=
  c == '!' || c == ':' || c == '\x7d' || c == '=' || c == '<' || c == '>'

/-- The character and the next one are one comparison. -/
def isComparisonPair (c : Char) (cs : List Char) : Bool :=
  (c == '!' || c == '=' || c == '<' || c == '>') && cs.head? == some '='

/-- The bracket that a closing bracket closes. -/
def opening : Char → Char
  | ')' => '('
  | ']' => '['
  | _ => '\x7b'

/-- The expression of a field, and the rest; `skip` characters are taken without a look. -/
def fieldExpression? (scan : FieldScan) (skip : Nat) :
    List Char → Option (List Char × List Char)
  | [] => if scan.quote.isSome || !scan.opened.isEmpty then none else some ([], [])
  | c :: cs =>
    let take (scan : FieldScan) (skip : Nat) : Option (List Char × List Char) :=
      (fieldExpression? scan skip cs).map fun (e, rest) => (c :: e, rest)
    if c = '\\' then none
    else match skip with
      | skip + 1 => take scan skip
      | 0 => match scan.quote with
        | some (q, width) =>
          if c ≠ q then take scan 0
          else if width = 1 then take { scan with quote := none } 0
          else if [q, q].isPrefixOf cs then take { scan with quote := none } 2
          else take scan 0
        | none =>
          if c = '"' ∨ c = '\'' then
            if [c, c].isPrefixOf cs then take { scan with quote := some (c, 3) } 2
            else take { scan with quote := some (c, 1) } 0
          else if c = '(' ∨ c = '[' ∨ c = '\x7b' then
            take { scan with opened := c :: scan.opened } 0
          else if c = '#' then none
          else if scan.opened.isEmpty && mayEndField c then
            if isComparisonPair c cs then take scan 1
            else if c = '<' ∨ c = '>' then take scan 0
            else some ([], c :: cs)
          else if c = ')' ∨ c = ']' ∨ c = '\x7d' then match scan.opened with
            | o :: rest => if opening c = o then take { scan with opened := rest } 0 else none
            | [] => none
          else take scan 0

/-- A blank of ASCII. -/
def isPlainBlank (c : Char) : Bool :=
  c == ' ' || c == '\t' || c == '\n' || c == '\r' || c == '\x0b' || c == '\x0c'

/-- The expression shows nothing. -/
def isBlankField (e : List Char) : Bool :=
  e.all fun c => isPlainBlank c && c != '\x0b'

/-- The text that a field shows of itself: the expression, an equals sign and the blanks after it.
-/
def selfText? (e : List Char) : List Char → Option (List Char) × List Char
  | '=' :: cs => (some (e ++ '=' :: cs.takeWhile isPlainBlank), cs.dropWhile isPlainBlank)
  | cs => (none, cs)

/-- How a field converts its value, after an exclamation mark. -/
def conversion? : List Char → Option (Option Char × List Char)
  | '!' :: c :: cs => if c = 's' ∨ c = 'r' ∨ c = 'a' then some (some c, cs) else none
  | '!' :: [] => none
  | cs => some (none, cs)

/-! ## Parts -/

/-- A literal text as a part. -/
def textPart (cs : List Char) : Tree := .literal (.text cs false)

/-- Put literal text before parts; neighbouring literal texts are one part, empty ones are none. -/
def beforeParts (cs : List Char) (parts : List Tree) : List Tree :=
  if cs.isEmpty then parts
  else match parts with
    | .literal (.text ds _) :: rest => textPart (cs ++ ds) :: rest
    | _ => textPart cs :: parts

/-- Parts after parts. -/
def joinParts : List Tree → List Tree → List Tree
  | [], qs => qs
  | [.literal (.text cs _)], qs => beforeParts cs qs
  | p :: ps, qs => p :: joinParts ps qs

end Entity.Formula
