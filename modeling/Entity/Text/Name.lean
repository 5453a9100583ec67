import Entity.Text.Name.Alias
import Entity.Text.Name.Alphabet
import Entity.Text.Name.Ancient
import Entity.Text.Name.Notation
import Entity.Text.Name.Picture
import Entity.Text.Name.Script
import Entity.Text.Name.Sign
import Entity.Text.Name.Syllable
import Entity.Text.Name.Symbol
import Entity.Text.Ranges
import Entity.Text.Split

/-!
# Names of characters

Every character can be asked for by its name: letter case is ignored, blanks and dashes count.
Ideographs are named by their code points and syllables of Hangul by their sounds, in capitals; all
other names are in tables.
-/

namespace Entity.Text

/-! ## Names in tables -/

/-- The words of a name, each with the blank or dash after it. -/
def nameWords (cs : List Char) : List (List Char) :=
  cs.foldr (fun c words =>
    if c = ' ' ∨ c = '-' then [c] :: words
    else match words with
      | word :: rest => (c :: word) :: rest
      | [] => [[c]]) []

/-- The words of the name in a place of a run, given the words of the name before it. -/
def wordsAt (before : List (List Char)) (place : List Char) : List (List Char) :=
  match place with
  | d :: cs =>
    if d.isDigit then before.take (d.toNat - '0'.toNat) ++ nameWords cs else nameWords (d :: cs)
  | [] => []

/-- How far down the places of a run a name is. -/
def placeOf? (name before : List (List Char)) : List (List Char) → Option Nat
  | [] => none
  | place :: places =>
    let here := wordsAt before place
    if here == name then some 0
    else (placeOf? name (if here.isEmpty then before else here) places).map (· + 1)

/-- The code point of a name in a run. -/
def codeInRun? (name : List (List Char)) (run : NameRun) : Option Nat :=
  (placeOf? name [] ((splitAt ',' run.2.toList).map trimStart)).map (run.1 + ·)

/-- The tables of names. -/
def nameTables : List (List NameRun) :=
  [alphabetNames, symbolNames, pictureNames, furtherNames, scriptNames, syllableNames, writtenNames,
    ancientNames, signNames]

/-- The code point of a name in capitals in the tables. -/
def codeInTables? (name : List Char) : Option Nat :=
  let words := nameWords name
  if words.isEmpty then none
  else nameTables.findSome? fun table => table.findSome? (codeInRun? words)

/-! ## Names by code point -/

/-- The number that hexadecimal digits in capitals denote. -/
def capitalHex? (cs : List Char) : Option Nat :=
  cs.foldlM (fun n c =>
    if c.isDigit then some (16 * n + (c.toNat - '0'.toNat))
    else if 'A' ≤ c ∧ c ≤ 'F' then some (16 * n + (c.toNat - 'A'.toNat + 10))
    else none) 0

/-- The ideographs that are named by their code points. -/
def ideographRanges : List (Nat × Nat) := [
    (0x3400, 0x4DBF), (0x4E00, 0x9FFF), (0x20000, 0x2A6DF), (0x2A700, 0x2B738), (0x2B740, 0x2B81D),
    (0x2B820, 0x2CEA1), (0x2CEB0, 0x2EBE0), (0x30000, 0x3134A)]

/-- Further characters that are named by their code points: what comes before the code point, and
the code points. -/
def numberedNames : List (String × List (Nat × Nat)) := [
    ("CJK COMPATIBILITY IDEOGRAPH-", [(0xF900, 0xFA6D), (0xFA70, 0xFAD9), (0x2F800, 0x2FA1D)]),
    ("KHITAN SMALL SCRIPT CHARACTER-", [(0x18B00, 0x18CD5)]),
    ("NUSHU CHARACTER-", [(0x1B170, 0x1B2FB)])]

/-- The code point of four or five digits that name a character of some ranges. -/
def numbered? (ranges : List (Nat × Nat)) (digits : List Char) : Option Nat :=
  if digits.length = 4 ∨ digits.length = 5 then
    (capitalHex? digits).filter fun n => inRanges n ranges
  else none

/-! ## Syllables -/

/-- The sounds that a syllable of Hangul begins with. -/
def firstSounds : List String :=
  ["G", "GG", "N", "D", "DD", "R", "M", "B", "BB", "S", "SS", "", "J", "JJ", "C", "K", "T", "P",
    "H"]

/-- The vowels of a syllable of Hangul. -/
def vowelSounds : List String :=
  ["A", "AE", "YA", "YAE", "EO", "E", "YEO", "YE", "O", "WA", "WAE", "OE", "YO", "U", "WEO", "WE",
    "WI", "YU", "EU", "YI", "I"]

/-- The sounds that a syllable of Hangul ends with. -/
def lastSounds : List String :=
  ["", "G", "GG", "GS", "N", "NJ", "NH", "D", "L", "LG", "LM", "LB", "LS", "LT", "LP", "LH", "M",
    "B", "BS", "S", "SS", "NG", "J", "C", "K", "T", "P", "H"]

/-- The place of the longest sound at the start of a text, and the rest. -/
def longestSound? (sounds : List String) (cs : List Char) : Option (Nat × List Char) :=
  (sounds.zipIdx.filterMap fun (s, i) =>
    (afterStart? s.toList cs).map fun rest => (i, rest)).foldl
    (fun best found => match best with
      | some (_, rest) => if found.2.length < rest.length then some found else best
      | none => some found) none

/-- The code point of a syllable of Hangul, from its sounds. -/
def codeOfSyllable? (cs : List Char) : Option Nat := do
  let (first, cs) ← longestSound? firstSounds cs
  let (vowel, cs) ← longestSound? vowelSounds cs
  let (last, cs) ← longestSound? lastSounds cs
  if cs.isEmpty then return 0xAC00 + (first * 21 + vowel) * 28 + last else none

/-! ## All names -/

/-- The code point of a name in capitals that ends in the code point, without leading zeros. -/
def codeInNumbered? (name : List Char) : Option Nat :=
  numberedNames.findSome? fun (start, ranges) => do
    let digits ← afterStart? start.toList name
    if digits.head? = some '0' then none else numbered? ranges digits

/-- The code point of the character with a name. -/
def codeOfName? (name : List Char) : Option Nat :=
  match afterStart? "HANGUL SYLLABLE ".toList name with
  | some sounds => codeOfSyllable? sounds
  | none => match afterStart? "CJK UNIFIED IDEOGRAPH-".toList name with
    | some digits => numbered? ideographRanges digits
    | none =>
      let capitals := name.map Char.toUpper
      (codeInNumbered? capitals).orElse fun _ => codeInTables? capitals

end Entity.Text
