import Entity.Failure
import Entity.Json.Reader
import Entity.Number.Numeral
import Entity.Text.Split
import Entity.Time.Moment
import Entity.Toml.Document

/-!
# Reading TOML

A document is a sequence of statements, one a line: headers, and keys with values.  Every reader
takes a text and gives what it read and the rest; a text that breaks the grammar has no reading.
-/

namespace Entity.Toml

open Entity.Text

/-! ## Blanks and comments -/

/-- Blanks within a line. -/
def isBlankChar (c : Char) : Bool := c == ' ' || c == '\t'

/-- Drop blanks. -/
def dropBlanks (cs : List Char) : List Char := cs.dropWhile isBlankChar

/-- A control character that may not stand in text; a tab may, and a line end where `lines` says. -/
def isForbidden (lines : Bool) (c : Char) : Bool :=
  (c.toNat < 32 || c.toNat == 127) && c != '\t' && !(lines && c == '\n')

/-- Drop a comment, up to the end of its line. -/
def dropComment : List Char → Option (List Char)
  | '#' :: cs =>
    if (cs.takeWhile (· != '\n')).any (isForbidden false) then none
    else some (cs.dropWhile (· != '\n'))
  | cs => some cs

/-- Drop blanks, line ends and comments; a measure of the text bounds their number. -/
def dropGaps : (fuel : Nat) → List Char → Option (List Char)
  | 0, cs => some cs
  | fuel + 1, cs =>
    match cs.dropWhile fun c => isBlankChar c || c == '\n' with
    | '#' :: rest => (dropComment ('#' :: rest)).bind (dropGaps fuel)
    | rest => some rest

/-! ## Strings -/

/-- The character that hexadecimal digits denote. -/
def hexChar? (n : Nat) (cs : List Char) : Option (List Char × List Char) := do
  let ds ← (cs.take n).mapM Json.hexDigit?
  if ds.length = n then
    let code := ds.foldl (fun k d => 16 * k + d) 0
    if code.isValidChar then some ([Char.ofNat code], cs.drop n) else none
  else none

/-- What a backslash at the end of a line stands for: nothing, with the blanks after it. -/
def foldedLine : List Char → Option (List Char × List Char)
  | [] => some ([], [])
  | '\n' :: cs => some ([], cs.dropWhile fun c => isBlankChar c || c == '\n')
  | _ => none

/-- What a backslash and the text after it stand for. -/
def escaped (lines : Bool) : List Char → Option (List Char × List Char)
  | 'b' :: cs => some ([Char.ofNat 8], cs)
  | 't' :: cs => some (['\t'], cs)
  | 'n' :: cs => some (['\n'], cs)
  | 'f' :: cs => some ([Char.ofNat 12], cs)
  | 'r' :: cs => some (['\r'], cs)
  | '"' :: cs => some (['"'], cs)
  | '\\' :: cs => some (['\\'], cs)
  | 'u' :: cs => hexChar? 4 cs
  | 'U' :: cs => hexChar? 8 cs
  | '\n' :: cs => if lines then foldedLine ('\n' :: cs) else none
  | c :: cs => if lines && isBlankChar c then foldedLine (dropBlanks cs) else none
  | [] => none

/-- The rest of a string between double quotes, three of them where `lines` says. -/
def quotedBody (lines : Bool) : (fuel : Nat) → List Char → Option (List Char × List Char)
  | 0, _ => none
  | _, [] => none
  | fuel + 1, c :: cs =>
    if c = '"' then
      match lines, cs with
      | false, cs => some ([], cs)
      | true, '"' :: '"' :: rest => some ([], rest)
      | true, cs => (quotedBody lines fuel cs).map fun (body, rest) => (c :: body, rest)
    else if c = '\\' then do
      let (new, cs) ← escaped lines cs
      let (body, rest) ← quotedBody lines fuel cs
      return (new ++ body, rest)
    else if isForbidden lines c then none
    else (quotedBody lines fuel cs).map fun (body, rest) => (c :: body, rest)

/-- The rest of a string between single quotes, three of them where `lines` says. -/
def literalBody (lines : Bool) : List Char → Option (List Char × List Char)
  | [] => none
  | c :: cs =>
    match lines, c, cs with
    | false, '\'', cs => some ([], cs)
    | true, '\'', '\'' :: '\'' :: rest => some ([], rest)
    | _, c, cs =>
      if isForbidden lines c then none
      else (literalBody lines cs).map fun (body, rest) => (c :: body, rest)

/-- Up to two more quotes that belong to a string of several lines. -/
def extraQuotes (quote : Char) (cs : List Char) : List Char × List Char :=
  let n := min 2 (cs.takeWhile (· == quote)).length
  (List.replicate n quote, cs.drop n)

/-- A string of several lines; a line end right after the opening quotes is left out. -/
def longString (quote : Char) (body : List Char → Option (List Char × List Char))
    (cs : List Char) : Option (String × List Char) := do
  let cs := match cs with
    | '\n' :: rest => rest
    | cs => cs
  let (text, rest) ← body cs
  let (extra, rest) := extraQuotes quote rest
  return (String.ofList (text ++ extra), rest)

/-- A string on one line, after its opening quote. -/
def shortString (body : List Char → Option (List Char × List Char)) (cs : List Char) :
    Option (String × List Char) :=
  (body cs).map fun (text, rest) => (String.ofList text, rest)

/-- A string between quotes of one kind. -/
def string? : List Char → Option (String × List Char)
  | '"' :: '"' :: '"' :: cs => longString '"' (quotedBody true cs.length) cs
  | '"' :: cs => shortString (quotedBody false cs.length) cs
  | '\'' :: '\'' :: '\'' :: cs => longString '\'' (literalBody true) cs
  | '\'' :: cs => shortString (literalBody false) cs
  | _ => none

/-! ## Keys -/

/-- A character of a key without quotes. -/
def isKeyChar (c : Char) : Bool := c.isAlphanum || c == '-' || c == '_'

/-- One part of a key. -/
def keyPart? (cs : List Char) : Option (String × List Char) :=
  match cs with
  | '"' :: rest => shortString (quotedBody false rest.length) rest
  | '\'' :: rest => shortString (literalBody false) rest
  | cs =>
    let word := cs.takeWhile isKeyChar
    if word.isEmpty then none else some (String.ofList word, cs.dropWhile isKeyChar)

/-- A dotted key, and the rest after blanks. -/
def key? : (fuel : Nat) → List Char → Option (Path × List Char)
  | 0, _ => none
  | fuel + 1, cs => do
    let (part, rest) ← keyPart? cs
    match dropBlanks rest with
    | '.' :: rest =>
      let (parts, rest) ← key? fuel (dropBlanks rest)
      return (part :: parts, rest)
    | rest => return ([part], rest)

/-! ## Numbers -/

/-- Digits with single low lines between them. -/
def digitRun (isDigit : Char → Bool) : List Char → List Char × List Char
  | '_' :: c :: cs =>
    if isDigit c then
      let (ds, rest) := digitRun isDigit cs
      (c :: ds, rest)
    else ([], '_' :: c :: cs)
  | c :: cs =>
    if isDigit c then
      let (ds, rest) := digitRun isDigit cs
      (c :: ds, rest)
    else ([], c :: cs)
  | [] => ([], [])

/-- At least one digit, with single low lines between digits. -/
def digits? (isDigit : Char → Bool) (cs : List Char) : Option (List Char × List Char) :=
  match cs with
  | '_' :: _ => none
  | cs => match digitRun isDigit cs with
    | ([], _) => none
    | result => some result

/-- The number that digits denote in a base. -/
def numberIn (base : Nat) (ds : List Char) : Nat :=
  ds.foldl (fun n c => base * n + (Json.hexDigit? c).getD 0) 0

/-- A number in another base, after its zero. -/
def based? : List Char → Option (Node × List Char)
  | 'x' :: cs => (digits? (fun c => (Json.hexDigit? c).isSome) cs).map fun (ds, rest) =>
      (.integer (numberIn 16 ds), rest)
  | 'o' :: cs => (digits? (fun c => '0' ≤ c && c ≤ '7') cs).map fun (ds, rest) =>
      (.integer (numberIn 8 ds), rest)
  | 'b' :: cs => (digits? (fun c => c == '0' || c == '1') cs).map fun (ds, rest) =>
      (.integer (numberIn 2 ds), rest)
  | _ => none

/-- The digits before a point: a single zero, or digits that do not begin with zero. -/
def wholePart? : List Char → Option (List Char × List Char)
  | '0' :: cs => some (['0'], cs)
  | cs => digits? Char.isDigit cs

/-- The fraction after a point, if there is one. -/
def fractionPart (cs : List Char) : List Char × List Char :=
  match cs with
  | '.' :: rest => match digits? Char.isDigit rest with
    | some (ds, rest) => ('.' :: ds, rest)
    | none => ([], cs)
  | _ => ([], cs)

/-- The exponent, if there is one. -/
def exponentPart (cs : List Char) : List Char × List Char :=
  match cs with
  | c :: rest =>
    if c = 'e' ∨ c = 'E' then
      let (sign, body) := rest.span fun c => c == '+' || c == '-'
      match digits? Char.isDigit body with
      | some (ds, rest) => if sign.length ≤ 1 then ('e' :: sign ++ ds, rest) else ([], cs)
      | none => ([], cs)
    else ([], cs)
  | [] => ([], cs)

/-- A decimal number. -/
def decimal? (cs : List Char) : Option (Node × List Char) := do
  let (sign, body) := match cs with
    | '-' :: cs => (['-'], cs)
    | '+' :: cs => ([], cs)
    | cs => ([], cs)
  let (whole, rest) ← wholePart? body
  let (fraction, rest) := fractionPart rest
  let (exponent, rest) := exponentPart rest
  if fraction.isEmpty && exponent.isEmpty then
    return (.integer (← Numeral.int? (sign ++ whole)), rest)
  else return (.float (← Numeral.float? (sign ++ whole ++ fraction ++ exponent)), rest)

/-- A number that is no number or has no bound. -/
def special? (cs : List Char) : Option (Node × List Char) :=
  match cs with
  | '-' :: 'i' :: 'n' :: 'f' :: rest => some (.float (.infinite true), rest)
  | '+' :: 'i' :: 'n' :: 'f' :: rest | 'i' :: 'n' :: 'f' :: rest =>
    some (.float (.infinite false), rest)
  | '-' :: 'n' :: 'a' :: 'n' :: rest | '+' :: 'n' :: 'a' :: 'n' :: rest
  | 'n' :: 'a' :: 'n' :: rest => some (.float .nan, rest)
  | _ => none

/-- A number. -/
def number? (cs : List Char) : Option (Node × List Char) :=
  match (match cs with
    | '0' :: rest => based? rest
    | _ => none) with
  | some result => some result
  | none => match decimal? cs with
    | some result => some result
    | none => special? cs

/-! ## Times -/

/-- Two digits that denote a number below a bound. -/
def below? (bound : Nat) (cs : List Char) : Option (List Char) :=
  (fixedDigits? 2 cs).bind fun (n, rest) => if n < bound then some rest else none

/-- The rest after a time of day. -/
def afterClock? (cs : List Char) : Option (List Char) := do
  let cs ← (← below? 24 cs |> Option.map (literal? ':')).bind (below? 60)
  let cs ← (literal? ':' cs).bind (below? 60)
  match cs with
  | '.' :: rest =>
    if (rest.takeWhile Char.isDigit).isEmpty then return cs else return rest.dropWhile Char.isDigit
  | _ => return cs

/-- The rest after the offset of a time, if there is one. -/
def afterOffset (cs : List Char) : List Char :=
  match cs with
  | c :: rest =>
    if c = 'Z' ∨ c = 'z' then rest
    else if c = '+' ∨ c = '-' then
      ((below? 24 rest).bind (literal? ':') |>.bind (below? 60)).getD cs
    else cs
  | [] => cs

/-- The form of a day at the start of a text, which need not be in the calendar. -/
def dayForm? (cs : List Char) : Option (List Char) := do
  let (_, cs) ← fixedDigits? 4 cs
  let (month, cs) ← (literal? '-' cs).bind (fixedDigits? 2)
  let (day, cs) ← (literal? '-' cs).bind (fixedDigits? 2)
  if 1 ≤ month ∧ month ≤ 12 ∧ 1 ≤ day ∧ day ≤ 31 then return cs else none

/-- The rest after a day and the time of day that may follow it. -/
def afterDay (cs : List Char) : List Char :=
  match cs with
  | c :: rest =>
    if c = 'T' ∨ c = 't' ∨ c = ' ' then ((afterClock? rest).map afterOffset).getD cs else cs
  | [] => cs

/-- The text that was read to come to a rest. -/
def readUpTo (cs rest : List Char) : String := String.ofList (cs.take (cs.length - rest.length))

/-- A day, a time of day or both, if the text begins with one; a day has to be in the calendar. -/
def time? (cs : List Char) : Option (Option (Node × List Char)) :=
  match dayForm? cs with
  | some rest =>
    let rest := afterDay rest
    some ((Date.read? cs).map fun _ => (.time (readUpTo cs rest), rest))
  | none => (afterClock? cs).map fun rest => some (.time (readUpTo cs rest), rest)

/-! ## Values -/

/-- A value that holds no others. -/
def scalar? (cs : List Char) : Option (Node × List Char) :=
  match cs with
  | '"' :: _ | '\'' :: _ => (string? cs).map fun (s, rest) => (.text s, rest)
  | 't' :: 'r' :: 'u' :: 'e' :: rest => some (.boolean true, rest)
  | 'f' :: 'a' :: 'l' :: 's' :: 'e' :: rest => some (.boolean false, rest)
  | cs => match time? cs with
    | some result => result
    | none => number? cs

mutual

/-- A value; a measure of the text bounds how deep values nest. -/
def value? : (fuel : Nat) → List Char → Option (Node × List Char)
  | 0, _ => none
  | fuel + 1, cs =>
    match cs with
    | '[' :: rest => do
      let rest ← dropGaps rest.length rest
      match rest with
      | ']' :: rest => return (.array [], rest)
      | rest =>
        let (items, rest) ← items? fuel rest
        return (.array items, rest)
    | '\x7b' :: rest => match dropBlanks rest with
      | '\x7d' :: rest => some (.table [], rest)
      | rest => inline? fuel {} rest
    | cs => scalar? cs

/-- The items of an array up to its end. -/
def items? : (fuel : Nat) → List Char → Option (List Node × List Char)
  | 0, _ => none
  | fuel + 1, cs => do
    let (v, rest) ← value? fuel cs
    match ← dropGaps rest.length rest with
    | ']' :: rest => return ([v], rest)
    | ',' :: rest =>
      match ← dropGaps rest.length rest with
      | ']' :: rest => return ([v], rest)
      | rest =>
        let (vs, rest) ← items? fuel rest
        return (v :: vs, rest)
    | _ => none

/-- The rest of a table in place. -/
def inline? : (fuel : Nat) → Inline → List Char → Option (Node × List Char)
  | 0, _, _ => none
  | fuel + 1, t, cs => do
    let (key, rest) ← key? cs.length cs
    let rest ← literal? '=' rest
    let (v, rest) ← value? fuel (dropBlanks rest)
    let t ← t.assign key v
    match dropBlanks rest with
    | '\x7d' :: rest => return (.table t.root, rest)
    | ',' :: rest => inline? fuel t (dropBlanks rest)
    | _ => none

end

/-! ## Statements -/

/-- A statement, with the document after it. -/
def statement? (d : Document) (cs : List Char) : Option (Document × List Char) :=
  match cs with
  | '[' :: '[' :: rest => do
    let (path, rest) ← key? rest.length (dropBlanks rest)
    let d ← d.openArrayTable path
    match rest with
    | ']' :: ']' :: rest => return (d, rest)
    | _ => none
  | '[' :: rest => do
    let (path, rest) ← key? rest.length (dropBlanks rest)
    let d ← d.openTable path
    match rest with
    | ']' :: rest => return (d, rest)
    | _ => none
  | '#' :: _ => some (d, cs)
  | cs => do
    let (key, rest) ← key? cs.length cs
    let rest ← literal? '=' rest
    let (v, rest) ← value? rest.length (dropBlanks rest)
    return (← d.assign key v, rest)

/-- The statements of a document; a measure of the text bounds their number. -/
def statements? : (fuel : Nat) → Document → List Char → Option Document
  | 0, d, cs => if cs.isEmpty then some d else none
  | fuel + 1, d, cs =>
    match dropBlanks cs with
    | [] => some d
    | '\n' :: rest => statements? fuel d rest
    | cs => do
      let (d, rest) ← statement? d cs
      match ← dropComment (dropBlanks rest) with
      | [] => return d
      | '\n' :: rest => statements? fuel d rest
      | _ => none

/-- The table that a text denotes. -/
def ofText (text : String) : Except Failure Table :=
  let cs := replaceAll ['\r', '\n'] ['\n'] text.toList
  match statements? (cs.length + 1) {} cs with
  | some d => .ok d.root
  | none => .error (.fault .badToml "no TOML document")

end Entity.Toml
