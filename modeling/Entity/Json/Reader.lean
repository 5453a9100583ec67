import Entity.Number.Numeral
import Entity.Outcome
import Entity.Text.Split
import Entity.Value

/-!
# Reading JSON

A JSON document as a value.  Of two entries with one key the later one counts, at the place of the
first; the words `NaN` and `Infinity` are numbers.  A fault has a message and the place in the text,
which is known by how much of the text was left.
-/

namespace Entity.Json

open Entity.Text

/-- Why a text is not a JSON document. -/
inductive Fault where
  /-- The text breaks the grammar; `left` characters were left at the place of the fault. -/
  | grammar (message : String) (left : Nat)
  /-- An integer has too many digits. -/
  | tooManyDigits
  /-- Too many lists and mappings are nested in one another. -/
  | tooDeep
  deriving DecidableEq, Repr, Inhabited

/-- A fault of the grammar at the start of a text. -/
def faultAt {α : Type} (message : String) (cs : List Char) : Except Fault α :=
  .error (.grammar message cs.length)

/-- White space between the parts of a document. -/
def isSpace (c : Char) : Bool := c == ' ' || c == '\t' || c == '\n' || c == '\r'

/-- Drop the white space at the start. -/
def skip (cs : List Char) : List Char := cs.dropWhile isSpace

/-! ## Strings -/

/-- The value of a hexadecimal digit. -/
def hexDigit? (c : Char) : Option Nat :=
  if c.isDigit then some (c.toNat - '0'.toNat)
  else if 'a' ≤ c ∧ c ≤ 'f' then some (c.toNat - 'a'.toNat + 10)
  else if 'A' ≤ c ∧ c ≤ 'F' then some (c.toNat - 'A'.toNat + 10)
  else none

/-- The number that four hexadecimal digits at the start denote. -/
def hexUnit? (cs : List Char) : Option Nat :=
  match cs with
  | a :: b :: c :: d :: _ => do
    return ((← hexDigit? a) * 16 + (← hexDigit? b)) * 256 + (← hexDigit? c) * 16 + (← hexDigit? d)
  | _ => none

/-- The character that a letter after a backslash denotes. -/
def simpleEscape? (c : Char) : Option Char :=
  match c with
  | '"' => some '"'
  | '\\' => some '\\'
  | '/' => some '/'
  | 'b' => some (Char.ofNat 8)
  | 'f' => some (Char.ofNat 12)
  | 'n' => some '\n'
  | 'r' => some '\r'
  | 't' => some '\t'
  | _ => none

/-- The second half of a surrogate pair at the start of a text. -/
def lowSurrogate? : List Char → Option Nat
  | '\\' :: 'u' :: cs =>
    if cs.length ≤ 4 then none
    else (hexUnit? cs).filter fun n => 0xdc00 ≤ n && n < 0xe000
  | _ => none

/-- The character that stands for a UTF-16 unit. -/
def unitChar (n : Nat) : Char := (charOfCode? n).getD default

/-- Read the rest of a string; `opened` is the length of the text at its opening quote, `read` what
was read in reverse, and `skipped` the number of characters that were read ahead. -/
def stringBody (opened : Nat) (read : List Char) :
    (skipped : Nat) → List Char → Except Fault (String × List Char)
  | _, [] => .error (.grammar "Unterminated string starting at" opened)
  | skipped + 1, _ :: cs => stringBody opened read skipped cs
  | 0, c :: cs =>
    if c = '"' then .ok (String.ofList read.reverse, cs)
    else if c.toNat < 32 then faultAt "Invalid control character at" (c :: cs)
    else if c ≠ '\\' then stringBody opened (c :: read) 0 cs
    else match cs with
      | [] => .error (.grammar "Unterminated string starting at" opened)
      | 'u' :: after =>
        match if after.length ≤ 4 then none else hexUnit? after with
        | none => faultAt "Invalid \\uXXXX escape" cs
        | some n =>
          match if 0xd800 ≤ n ∧ n < 0xdc00 then lowSurrogate? (after.drop 4) else none with
          | some low =>
            let c := Char.ofNat (0x10000 + (n - 0xd800) * 0x400 + (low - 0xdc00))
            stringBody opened (c :: read) 11 cs
          | none => stringBody opened (unitChar n :: read) 5 cs
      | e :: _ => match simpleEscape? e with
        | some c => stringBody opened (c :: read) 1 cs
        | none => faultAt "Invalid \\escape" (c :: cs)

/-! ## Numbers and words -/

/-- ASCII digits at the start, and the rest. -/
def digitsOf (cs : List Char) : List Char × List Char := cs.span Char.isDigit

/-- The fraction of a number: a point with digits after it. -/
def fractionOf (cs : List Char) : List Char × List Char :=
  match cs with
  | '.' :: rest =>
    let (ds, after) := digitsOf rest
    if ds.isEmpty then ([], cs) else ('.' :: ds, after)
  | _ => ([], cs)

/-- The exponent of a number. -/
def exponentOf (cs : List Char) : List Char × List Char :=
  match cs with
  | e :: rest =>
    if e = 'e' ∨ e = 'E' then
      let (sign, body) := match rest with
        | '+' :: r => (['+'], r)
        | '-' :: r => (['-'], r)
        | _ => ([], rest)
      let (ds, after) := digitsOf body
      if ds.isEmpty then ([], cs) else (e :: (sign ++ ds), after)
    else ([], cs)
  | [] => ([], [])

/-- The whole part of a number: a zero, or digits that do not begin with a zero. -/
def wholeOf (cs : List Char) : List Char × List Char :=
  match cs with
  | '0' :: rest => (['0'], rest)
  | _ => digitsOf cs

/-- A number at the start of a text. -/
def number (cs : List Char) : Except Fault (Value × List Char) :=
  let (sign, body) := match cs with
    | '-' :: rest => (['-'], rest)
    | _ => ([], cs)
  let (whole, afterWhole) := wholeOf body
  if whole.isEmpty then faultAt "Expecting value" cs
  else
    let (fraction, afterFraction) := fractionOf afterWhole
    let (exponent, rest) := exponentOf afterFraction
    if fraction.isEmpty && exponent.isEmpty then
      match Numeral.int? (sign ++ whole) with
      | some n => .ok (.int n, rest)
      | none => .error .tooManyDigits
    else .ok (.float ((Numeral.float? (sign ++ whole ++ fraction ++ exponent)).getD .nan), rest)

/-- The words that stand for values. -/
def wordValues : List (String × Value) :=
  [("null", .null), ("true", .bool true), ("false", .bool false), ("NaN", .float .nan),
    ("Infinity", .float (.infinite false)), ("-Infinity", .float (.infinite true))]

/-- A word or a number at the start of a text. -/
def atom (cs : List Char) : Except Fault (Value × List Char) :=
  match wordValues.findSome? fun (word, v) => (afterStart? word.toList cs).map fun r => (v, r) with
  | some found => .ok found
  | none => number cs

/-! ## Documents -/

/-- The most lists and mappings that may be nested in one another. -/
def nestingLimit : Nat := 991

mutual

/-- A value at the start of a text; `room` is how many lists and mappings may still be nested. -/
def value : (fuel room : Nat) → List Char → Except Fault (Value × List Char)
  | 0, _, cs => faultAt "Expecting value" cs
  | fuel + 1, room, cs =>
    match cs with
    | [] => faultAt "Expecting value" cs
    | '"' :: rest => do
      let (s, rest) ← stringBody cs.length [] 0 rest
      return (.text s, rest)
    | '[' :: rest =>
      if room = 0 then .error .tooDeep
      else match skip rest with
        | ']' :: after => .ok (.list [], after)
        | body => do
          let (items, rest) ← items fuel (room - 1) body
          return (.list items, rest)
    | '\x7b' :: rest =>
      if room = 0 then .error .tooDeep
      else match skip rest with
        | '\x7d' :: after => .ok (.map [], after)
        | body => do
          let (entries, rest) ← entries fuel (room - 1) body
          return (.map (Entries.ofList entries), rest)
    | _ => atom cs

/-- The items of a list, up to its closing bracket. -/
def items : (fuel room : Nat) → List Char → Except Fault (List Value × List Char)
  | 0, _, cs => faultAt "Expecting value" cs
  | fuel + 1, room, cs => do
    let (v, rest) ← value fuel room cs
    match skip rest with
    | ']' :: after => return ([v], after)
    | ',' :: after =>
      let (vs, rest) ← items fuel room (skip after)
      return (v :: vs, rest)
    | rest => faultAt "Expecting ',' delimiter" rest

/-- The entries of a mapping, up to its closing brace. -/
def entries : (fuel room : Nat) → List Char → Except Fault (List (String × Value) × List Char)
  | 0, _, cs => faultAt "Expecting value" cs
  | fuel + 1, room, cs => do
    match cs with
    | '"' :: body =>
      let (key, rest) ← stringBody cs.length [] 0 body
      match skip rest with
      | ':' :: after =>
        let (v, rest) ← value fuel room (skip after)
        match skip rest with
        | '\x7d' :: after => return ([(key, v)], after)
        | ',' :: after =>
          let (es, rest) ← entries fuel room (skip after)
          return ((key, v) :: es, rest)
        | rest => faultAt "Expecting ',' delimiter" rest
      | rest => faultAt "Expecting ':' delimiter" rest
    | _ => faultAt "Expecting property name enclosed in double quotes" cs

end

/-- The value of a document. -/
def document (cs : List Char) : Except Fault Value := do
  if cs.head? = some (Char.ofNat 0xfeff) then
    .error (.grammar "Unexpected UTF-8 BOM (decode using utf-8-sig)" cs.length)
  else
    let (v, rest) ← value (2 * cs.length + 2) nestingLimit (skip cs)
    match skip rest with
    | [] => return v
    | rest => .error (.grammar "Extra data" rest.length)

/-! ## Places -/

/-- A message with the line, the column and the index of a place in a text. -/
def placed (message : String) (cs : List Char) (left : Nat) : String :=
  let before := cs.take (cs.length - left)
  let line := before.count '\n' + 1
  let column := (before.reverse.takeWhile (· != '\n')).length + 1
  message ++ ": line " ++ toString line ++ " column " ++ toString column ++ " (char " ++
    toString before.length ++ ")"

/-- The fault of a text as a failure. -/
def Fault.toFailure (cs : List Char) : Fault → Failure
  | grammar message left => .fault .badJson (placed message cs left)
  | tooManyDigits => .fault .badValue "Exceeds the limit for integer string conversion"
  | tooDeep => .fault .endlessRecursion "maximum recursion depth exceeded"

/-- The value that a JSON text denotes. -/
def ofText (text : String) : Except Failure Value :=
  (document text.toList).mapError (Fault.toFailure text.toList)

end Entity.Json
