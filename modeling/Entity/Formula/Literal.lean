import Entity.Number.Binary64
import Entity.Text.Decimal
import Entity.Text.Name
import Entity.Text.Surrogate

/-!
# Literals

The constants of formula code, and how numbers and text literals are read.  A number that is
followed by more characters of a name is no number, and a text literal has escapes unless it is raw.
-/

namespace Entity.Formula

/-- A constant. -/
inductive Literal where
  | nothing
  | bool (b : Bool)
  | ellipsis
  | int (n : Nat)
  | float (x : Binary64)
  /-- A multiple of the imaginary unit. -/
  | imaginary (x : Binary64)
  /-- A text; `marked` says that it was written with a `u` before it. -/
  | text (s : List Char) (marked : Bool)
  | bytes (bs : List UInt8)
  deriving DecidableEq, Repr, Inhabited

/-! ## Characters of names -/

/-- A character that a name may begin with; outside ASCII every character is tried. -/
def mayBeginName (c : Char) : Bool := c.isAlpha || c == '_' || 128 ≤ c.toNat

/-- A character that a name may go on with. -/
def mayContinueName (c : Char) : Bool := mayBeginName c || c.isDigit

/-! ## Numbers -/

/-- Digits with single low lines between them, or after a low line at the start; a low line that no
digit follows is an error. -/
def digitGroups? (isDigit : Char → Bool) : List Char → Option (List Char × List Char)
  | [] => some ([], [])
  | '_' :: c :: cs =>
    if isDigit c then (digitGroups? isDigit cs).map fun (ds, rest) => (c :: ds, rest) else none
  | c :: cs =>
    if c = '_' then none
    else if isDigit c then (digitGroups? isDigit cs).map fun (ds, rest) => (c :: ds, rest)
    else some ([], c :: cs)

/-- The value of a digit in any base up to sixteen. -/
def digitValue (c : Char) : Nat :=
  if c.isDigit then c.toNat - '0'.toNat
  else if 'a' ≤ c ∧ c ≤ 'f' then c.toNat - 'a'.toNat + 10
  else c.toNat - 'A'.toNat + 10

/-- The number that digits denote in a base. -/
def ofDigits (base : Nat) (ds : List Char) : Nat :=
  ds.foldl (fun n d => base * n + digitValue d) 0

/-- A digit below eight. -/
def isOctal (c : Char) : Bool := '0' ≤ c && c ≤ '7'

/-- A digit below two. -/
def isBinary (c : Char) : Bool := c == '0' || c == '1'

/-- A hexadecimal digit. -/
def isHexadecimal (c : Char) : Bool :=
  c.isDigit || ('a' ≤ c && c ≤ 'f') || ('A' ≤ c && c ≤ 'F')

/-- The words that may follow a number without a blank. -/
def wordsAfterNumber : List (List Char) :=
  ["and", "else", "for", "if", "in", "is", "or", "not"].map String.toList

/-- A number may end before this text. -/
def endsNumber (cs : List Char) : Bool :=
  match cs with
  | c :: _ => !mayContinueName c || wordsAfterNumber.any fun w => w.isPrefixOf cs
  | [] => true

/-- A number in a base, after its marker. -/
def readInBase? (base : Nat) (isDigit : Char → Bool) (cs : List Char) :
    Option (Literal × List Char) := do
  let (ds, rest) ← digitGroups? isDigit cs
  if ds.isEmpty || !endsNumber rest then none else some (.int (ofDigits base ds), rest)

/-- The digits after a point. -/
def readFraction? : List Char → Option (Option (List Char) × List Char)
  | '.' :: c :: cs =>
    if c.isDigit then (digitGroups? Char.isDigit (c :: cs)).map fun (ds, rest) => (some ds, rest)
    else some (some [], c :: cs)
  | '.' :: cs => some (some [], cs)
  | cs => some (none, cs)

/-- Digits of an exponent, which must be there. -/
def exponentDigits? (negative : Bool) (cs : List Char) : Option (Option Int × List Char) := do
  let (ds, rest) ← digitGroups? Char.isDigit cs
  let n : Int := ofDigits 10 ds
  some (some (if negative then -n else n), rest)

/-- The text begins with a digit. -/
def beginsDigit : List Char → Bool
  | c :: _ => c.isDigit
  | [] => false

/-- The exponent after `e`; an `e` that no digit follows is not part of the number. -/
def readExponent? (cs : List Char) : Option (Option Int × List Char) :=
  match cs with
  | c :: rest =>
    if c = 'e' ∨ c = 'E' then match rest with
      | '+' :: more => if beginsDigit more then exponentDigits? false more else none
      | '-' :: more => if beginsDigit more then exponentDigits? true more else none
      | _ => if beginsDigit rest then exponentDigits? false rest else some (none, cs)
    else some (none, cs)
  | [] => some (none, [])

/-- The longest integer in decimal digits. -/
def decimalLimit : Nat := 4300

/-- An integer without a point and an exponent; zeros may not lead other digits. -/
def integer? (ds : List Char) : Option Literal :=
  if decimalLimit < ds.length then none
  else if ds.head? = some '0' ∧ ds.any (· != '0') then none
  else some (.int (ofDigits 10 ds))

/-- A decimal number: an integer, or a number with a point or an exponent, or a multiple of the
imaginary unit. -/
def readDecimal? (cs : List Char) : Option (Literal × List Char) := do
  let (whole, cs) ← digitGroups? Char.isDigit cs
  let (fraction, cs) ← readFraction? cs
  let (exponent, cs) ← readExponent? cs
  let part := fraction.getD []
  let value :=
    Binary64.ofDecimal false (ofDigits 10 (whole ++ part)) (exponent.getD 0 - part.length)
  match cs with
  | 'j' :: rest => if endsNumber rest then some (.imaginary value, rest) else none
  | 'J' :: rest => if endsNumber rest then some (.imaginary value, rest) else none
  | _ =>
    if !endsNumber cs then none
    else if fraction.isSome || exponent.isSome then some (.float value, cs)
    else (integer? whole).map fun l => (l, cs)

/-- The number at the start of a text that begins with a digit, or with a point and a digit. -/
def readNumber? (cs : List Char) : Option (Literal × List Char) :=
  match cs with
  | '0' :: 'x' :: rest => readInBase? 16 isHexadecimal rest
  | '0' :: 'X' :: rest => readInBase? 16 isHexadecimal rest
  | '0' :: 'o' :: rest => readInBase? 8 isOctal rest
  | '0' :: 'O' :: rest => readInBase? 8 isOctal rest
  | '0' :: 'b' :: rest => readInBase? 2 isBinary rest
  | '0' :: 'B' :: rest => readInBase? 2 isBinary rest
  | _ => readDecimal? cs

/-! ## Texts -/

/-- A text literal as it is written. -/
structure QuotedText where
  isBytes : Bool := false
  isRaw : Bool := false
  /-- Fields between braces are filled in. -/
  isFormatted : Bool := false
  /-- Written with a `u` before it. -/
  isMarked : Bool := false
  /-- What stands between the quotes. -/
  body : List Char
  deriving DecidableEq, Repr, Inhabited

/-- The character for the letter of a short escape. -/
def shortEscape? : Char → Option Char
  | '\\' => some '\\'
  | '\'' => some '\''
  | '"' => some '"'
  | 'a' => some '\x07'
  | 'b' => some '\x08'
  | 'f' => some '\x0c'
  | 'n' => some '\n'
  | 'r' => some '\r'
  | 't' => some '\t'
  | 'v' => some '\x0b'
  | _ => none

/-- Exactly `n` hexadecimal digits. -/
def hexDigits? (n : Nat) (cs : List Char) : Option (Nat × List Char) :=
  let ds := cs.take n
  if ds.length = n ∧ ds.all isHexadecimal then some (ofDigits 16 ds, cs.drop n) else none

/-- The width of the escape with a letter, in hexadecimal digits. -/
def escapeWidth? (isBytes : Bool) : Char → Option Nat
  | 'x' => some 2
  | 'u' => if isBytes then none else some 4
  | 'U' => if isBytes then none else some 8
  | _ => none

/-- The character that is named between braces, and the rest. -/
def namedChar? : List Char → Option (Char × List Char)
  | '\x7b' :: cs => do
    let (name, rest) ← Text.cutAt? '\x7d' cs
    let c ← Text.charOfCode? (← Text.codeOfName? name)
    some (c, rest)
  | _ => none

/-- What an escape stands for, after the backslash, and the rest. -/
def readEscape? (isBytes : Bool) (c : Char) (cs : List Char) :
    Option (List Char × List Char) :=
  if c = '\n' then some ([], cs)
  else match shortEscape? c with
    | some e => some ([e], cs)
    | none =>
      if isOctal c then
        let ds := c :: (cs.take 2).takeWhile isOctal
        some ([Char.ofNat (ofDigits 8 ds)], cs.drop (ds.length - 1))
      else match escapeWidth? isBytes c with
        | some width => do
          let (n, rest) ← hexDigits? width cs
          let e ← Text.charOfCode? n
          some ([e], rest)
        | none =>
          if c = 'N' ∧ !isBytes then (namedChar? cs).map fun (e, rest) => ([e], rest)
          else some (['\\', c], cs)

/-- A text with its escapes replaced; `fuel` bounds its length. -/
def unescape? (isBytes : Bool) : (fuel : Nat) → List Char → Option (List Char)
  | 0, _ => some []
  | _, [] => some []
  | _, ['\\'] => some ['\\']
  | fuel + 1, '\\' :: c :: cs => do
    let (part, rest) ← readEscape? isBytes c cs
    return part ++ (← unescape? isBytes fuel rest)
  | fuel + 1, c :: cs => (unescape? isBytes fuel cs).map (c :: ·)

/-- The text that the body of a literal stands for. -/
def decodeBody? (isBytes isRaw : Bool) (body : List Char) : Option (List Char) :=
  if isRaw then some body else unescape? isBytes body.length body

/-- The bytes of a literal of bytes; only ASCII may be written in it. -/
def decodeBytes? (t : QuotedText) : Option (List UInt8) :=
  if t.body.any fun c => 128 ≤ c.toNat then none
  else (decodeBody? true t.isRaw t.body).map fun cs => cs.map fun c => UInt8.ofNat c.toNat

end Entity.Formula
