import Entity.Formula.Literal
import Entity.Text.Identifier

/-!
# Tokens

Formula code is cut into words, numbers, text literals and marks.  Lines matter outside brackets:
the end of a line is a token, and so is every change of the indentation.
-/

namespace Entity.Formula

open Entity.Text

/-- A token. -/
inductive Token where
  /-- A name or keyword. -/
  | word (s : String)
  | number (l : Literal)
  | text (t : QuotedText)
  /-- An operator or delimiter. -/
  | mark (s : String)
  | lineEnd
  | indent
  | dedent
  /-- Text that is no token; nothing follows it. -/
  | bad
  deriving DecidableEq, Repr, Inhabited

/-! ## Words -/

/-- The letters before the quote of a text literal. -/
def literalMarks : List (List Char) :=
  ["", "r", "b", "u", "f", "br", "rb", "fr", "rf"].map String.toList

/-- The word is a name: outside ASCII only letters, digits and marks of names may stand in it. -/
def isName : List Char → Bool
  | [] => false
  | c :: cs =>
    (c :: cs).all (fun c => c.toNat < 128) || (isIdentifierStart c && cs.all isIdentifierPart)

/-! ## Quotes -/

/-- The text up to a closing quote on the same line, and the rest; a backslash keeps the character
after it. -/
def untilQuote? (quote : Char) : List Char → Option (List Char × List Char)
  | [] => none
  | '\\' :: c :: cs => (untilQuote? quote cs).map fun (body, rest) => ('\\' :: c :: body, rest)
  | c :: cs =>
    if c = quote then some ([], cs)
    else if c = '\n' ∨ c = '\\' then none
    else (untilQuote? quote cs).map fun (body, rest) => (c :: body, rest)

/-- The text up to three closing quotes, and the rest. -/
def untilQuotes? (quote : Char) : List Char → Option (List Char × List Char)
  | [] => none
  | '\\' :: c :: cs => (untilQuotes? quote cs).map fun (body, rest) => ('\\' :: c :: body, rest)
  | c :: cs =>
    if [quote, quote, quote].isPrefixOf (c :: cs) then some ([], cs.drop 2)
    else if c = '\\' then none
    else (untilQuotes? quote cs).map fun (body, rest) => (c :: body, rest)

/-- The body of a text literal after its first quote, and the rest. -/
def readBody? (quote : Char) (cs : List Char) : Option (List Char × List Char) :=
  if [quote, quote].isPrefixOf cs then untilQuotes? quote (cs.drop 2) else untilQuote? quote cs

/-- A text literal, after its letters and first quote. -/
def readText? (letters : List Char) (quote : Char) (cs : List Char) :
    Option (QuotedText × List Char) :=
  let lower := letters.map Char.toLower
  if literalMarks.contains lower then
    (readBody? quote cs).map fun (body, rest) =>
      ({ isBytes := lower.contains 'b', isRaw := lower.contains 'r', body
         isFormatted := lower.contains 'f', isMarked := letters = ['u'] }, rest)
  else none

/-! ## Marks -/

/-- Operators and delimiters, longest first. -/
def marks : List (List Char) :=
  ["...", "**=", "//=", ">>=", "<<=", "**", "//", ">>", "<<", "!=", "->", "+=", "-=", "*=", "/=",
    "%=", "&=", "|=", "^=", "@=", "==", "<=", ">=", ":=", "+", "-", "*", "/", "%", "@", "&", "|",
    "^", "~", "<", ">", "(", ")", "[", "]", "\x7b", "\x7d", ",", ":", ".", ";",
    "="].map String.toList

/-- The longest mark at the start of a text. -/
def markAt? (cs : List Char) : Option (List Char) := marks.find? fun m => m.isPrefixOf cs

/-- The most brackets that may be open at once. -/
def bracketLimit : Nat := 200

/-- The bracket that closes an open one. -/
def closing : Char → Char
  | '(' => ')'
  | '[' => ']'
  | _ => '\x7d'

/-- The open brackets after a mark; a closing bracket must close the last open one. -/
def brackets? (opened : List Char) (mark : List Char) : Option (List Char) :=
  match mark with
  | [c] =>
    if c = '(' ∨ c = '[' ∨ c = '\x7b' then
      if opened.length < bracketLimit then some (c :: opened) else none
    else if c = ')' ∨ c = ']' ∨ c = '\x7d' then match opened with
      | o :: rest => if closing o = c then some rest else none
      | [] => none
    else some opened
  | _ => some opened

/-! ## Indentation -/

/-- The width of an indentation, with tabs to every eighth column, and with tabs as one column. -/
structure Indentation where
  column : Nat := 0
  characters : Nat := 0
  deriving DecidableEq, Repr, Inhabited

/-- The indentation at the start of a line, the one before a continued line if there is one, and the
rest. -/
def indentation (now : Indentation) (kept : Option Nat) :
    List Char → Option (Indentation × List Char)
  | ' ' :: cs => indentation ⟨now.column + 1, now.characters + 1⟩ kept cs
  | '\t' :: cs => indentation ⟨(now.column / 8 + 1) * 8, now.characters + 1⟩ kept cs
  | '\x0c' :: cs => indentation ⟨0, 0⟩ kept cs
  | '\\' :: '\n' :: c :: cs =>
    let first := match kept with
      | some (n + 1) => some (n + 1)
      | _ => some now.column
    indentation now first (c :: cs)
  | '\\' :: _ => none
  | cs => match kept with
    | some (n + 1) => some (⟨n + 1, n + 1⟩, cs)
    | _ => some (now, cs)

/-- The most levels of indentation. -/
def indentLimit : Nat := 99

/-- The levels that are left when the indentation goes back, and how many are closed. -/
def closeLevels (now : Indentation) : List Indentation → List Indentation × Nat
  | [] => ([], 0)
  | top :: levels =>
    if now.column < top.column then
      let (left, n) := closeLevels now levels
      (left, n + 1)
    else (top :: levels, 0)

/-- The indentation of the innermost level. -/
def topLevel (levels : List Indentation) : Indentation := levels.headD {}

/-- The tokens for a line with an indentation, and the levels inside it; tabs and blanks must agree
on what is deeper. -/
def lineStart? (levels : List Indentation) (now : Indentation) :
    Option (List Token × List Indentation) :=
  let top := topLevel levels
  if now.column = top.column then
    if now.characters = top.characters then some ([], levels) else none
  else if top.column < now.column then
    if now.characters ≤ top.characters ∨ indentLimit ≤ levels.length then none
    else some ([.indent], now :: levels)
  else
    let (left, n) := closeLevels now levels
    if (topLevel left) = now then some (List.replicate n .dedent, left) else none

/-! ## All tokens -/

/-- A blank within a line. -/
def isInnerBlank (c : Char) : Bool := c == ' ' || c == '\t' || c == '\x0c'

/-- The rest of a line after a comment. -/
def skipComment (cs : List Char) : List Char :=
  match cs with
  | '#' :: rest => rest.dropWhile (· != '\n')
  | _ => cs

/-- The line holds nothing but a comment or nothing at all. -/
def isEmptyLine (cs : List Char) : Bool :=
  match cs with
  | '#' :: _ => true
  | '\n' :: _ => true
  | _ => false

/-- The tokens of a text.  `fresh` says that a line begins, `opened` are the open brackets and
`levels` the levels of indentation. -/
def tokensFrom : (fuel : Nat) → (fresh : Bool) → (opened : List Char) →
    (levels : List Indentation) → List Char → List Token
  | 0, _, _, _, _ => [.bad]
  | fuel + 1, true, opened, levels, cs =>
    match indentation {} none cs with
    | none => [.bad]
    | some (now, rest) =>
      if isEmptyLine rest then
        match skipComment rest with
        | '\n' :: more => tokensFrom fuel true opened levels more
        | more => tokensFrom fuel false opened levels more
      else if !opened.isEmpty then tokensFrom fuel false opened levels rest
      else match lineStart? levels now with
        | none => [.bad]
        | some (ts, levels) => ts ++ tokensFrom fuel false opened levels rest
  | fuel + 1, false, opened, levels, cs =>
    match skipComment (cs.dropWhile isInnerBlank) with
    | [] => if opened.isEmpty then [] else [.bad]
    | '\n' :: rest =>
      if opened.isEmpty then .lineEnd :: tokensFrom fuel true opened levels rest
      else tokensFrom fuel true opened levels rest
    | '\\' :: '\n' :: c :: rest => tokensFrom fuel false opened levels (c :: rest)
    | c :: rest =>
      if mayBeginName c then
        let letters := (c :: rest).takeWhile mayContinueName
        match (c :: rest).dropWhile mayContinueName with
        | q :: more =>
          match if q = '"' ∨ q = '\'' then readText? letters q more else none with
          | some (t, more) => .text t :: tokensFrom fuel false opened levels more
          | none =>
            if isName letters then
              .word (String.ofList letters) :: tokensFrom fuel false opened levels (q :: more)
            else [.bad]
        | [] =>
          if isName letters then
            .word (String.ofList letters) :: tokensFrom fuel false opened levels []
          else [.bad]
      else if c.isDigit || (c == '.' && beginsDigit rest) then
        match readNumber? (c :: rest) with
        | some (l, more) => .number l :: tokensFrom fuel false opened levels more
        | none => [.bad]
      else if c = '"' ∨ c = '\'' then
        match readText? [] c rest with
        | some (t, more) => .text t :: tokensFrom fuel false opened levels more
        | none => [.bad]
      else match markAt? (c :: rest) with
        | none => [.bad]
        | some m => match brackets? opened m with
          | none => [.bad]
          | some opened => .mark (String.ofList m) ::
              tokensFrom fuel false opened levels ((c :: rest).drop m.length)

/-- A carriage return, alone or before a line feed, ends a line as a line feed does. -/
def plainLineEnds : List Char → List Char
  | '\r' :: '\n' :: cs => '\n' :: plainLineEnds cs
  | '\r' :: cs => '\n' :: plainLineEnds cs
  | c :: cs => c :: plainLineEnds cs
  | [] => []

/-- The tokens of a text, line ends being plain. -/
def tokensOf (cs : List Char) : List Token := tokensFrom (2 * cs.length + 2) true [] [] cs

end Entity.Formula
