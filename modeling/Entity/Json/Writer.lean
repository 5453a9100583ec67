import Entity.Value.Text

/-!
# Writing JSON

Values as JSON text in ASCII, on one line or laid out with an indent.  Values that JSON has no form
for are written as the string of their shown form.
-/

namespace Entity.Json

/-! ## Strings -/

/-- The escape of a UTF-16 unit. -/
def unitEscape (n : Nat) : List Char := '\\' :: 'u' :: Text.hex 4 n

/-- How a character is written in a string. -/
def escapedChar (c : Char) : List Char :=
  if c = '"' ∨ c = '\\' then ['\\', c]
  else if c = '\n' then ['\\', 'n']
  else if c = '\r' then ['\\', 'r']
  else if c = '\t' then ['\\', 't']
  else if c.toNat = 8 then ['\\', 'b']
  else if c.toNat = 12 then ['\\', 'f']
  else if ' ' ≤ c ∧ c ≤ '~' then [c]
  else if Text.codeOf c < 0x10000 then unitEscape (Text.codeOf c)
  else
    let n := c.toNat - 0x10000
    unitEscape (0xd800 + n / 0x400) ++ unitEscape (0xdc00 + n % 0x400)

/-- A string between double quotes. -/
def string (s : String) : String :=
  String.ofList ('"' :: (s.toList.flatMap escapedChar ++ ['"']))

/-! ## Layout -/

/-- The names of the numbers that are not finite. -/
def numberNames : Binary64.SpecialNames := ⟨"Infinity", "NaN"⟩

/-- A new line with the indent of a depth. -/
def newLine (indent depth : Nat) : String :=
  String.ofList ('\n' :: List.replicate (indent * depth) ' ')

/-- Parts between brackets; `indent` is the step of the layout, none for a single line. -/
def bracketed (indent : Option Nat) (depth : Nat) (left right : String) (parts : List String) :
    String :=
  match parts, indent with
  | [], _ => left ++ right
  | _, none => left ++ Text.join ", " parts ++ right
  | _, some n =>
    left ++ newLine n (depth + 1) ++ Text.join ("," ++ newLine n (depth + 1)) parts ++
      newLine n depth ++ right

mutual

/-- A value at a depth of the layout. -/
def write (indent : Option Nat) (depth : Nat) : Value → String
  | .null => "null"
  | .bool b => if b then "true" else "false"
  | .int n => toString n
  | .float x => x.toText numberNames
  | .text s => string s
  | .list items => bracketed indent depth "[" "]" (writeItems indent (depth + 1) items)
  | .tuple items => bracketed indent depth "[" "]" (writeItems indent (depth + 1) items)
  | .map entries => bracketed indent depth "\x7b" "\x7d" (writeEntries indent (depth + 1) entries)
  | v => string v.shown

/-- The items of a list. -/
def writeItems (indent : Option Nat) (depth : Nat) : List Value → List String
  | [] => []
  | v :: vs => write indent depth v :: writeItems indent depth vs

/-- The entries of a mapping. -/
def writeEntries (indent : Option Nat) (depth : Nat) : List (String × Value) → List String
  | [] => []
  | (k, v) :: es => (string k ++ ": " ++ write indent depth v) :: writeEntries indent depth es

end

/-- The JSON text of a value. -/
def toText (indent : Option Nat) (v : Value) : String := write indent 0 v

end Entity.Json
