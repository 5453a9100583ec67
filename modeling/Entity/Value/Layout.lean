import Entity.Text.Blank
import Entity.Value.Text

/-!
# Values laid out over lines

A value that fits on the line is written in its quoted form.  One that does not fit is laid out with
an item a line, and a long text is cut into pieces between its words.
-/

namespace Entity.Value

open Entity.Text

/-! ## Places -/

/-- The width of the page. -/
def pageWidth : Int := 80

/-- How far items stand to the right of what holds them. -/
def indentStep : Nat := 4

/-- Where a value is written: the column it begins at, and the room to keep after its end. -/
structure Place where
  column : Nat
  allowance : Nat

/-- The room for a value. -/
def Place.room (p : Place) : Int := pageWidth - p.column - p.allowance

/-- The place of the items of a value, with room for its closing bracket. -/
def Place.inside (p : Place) : Place := ⟨p.column + indentStep, p.allowance + 1⟩

/-- A new line that begins at a column. -/
def newLine (column : Nat) : List Char := '\n' :: List.replicate column ' '

/-- Blanks between an opening bracket and the first item. -/
def openingBlanks : List Char := List.replicate (indentStep - 1) ' '

/-! ## Texts -/

/-- The words of a line, each with the blanks after it; blanks at the start stand alone. -/
def wordsWithBlanks : (fuel : Nat) → List Char → List (List Char)
  | 0, _ => []
  | _, [] => []
  | fuel + 1, c :: cs =>
    let word := (c :: cs).takeWhile (!isBlank ·)
    let rest := (c :: cs).dropWhile (!isBlank ·)
    let piece := word ++ rest.takeWhile isBlank
    piece :: wordsWithBlanks fuel (rest.dropWhile isBlank)

/-- The length of a text between quotes. -/
def quotedLength (cs : List Char) : Int := (quotedChars cs).length

/-- Put words together to pieces that fit; the last word must leave room for what follows. -/
def fillPieces (room lastRoom : Int) (current : List Char) : List (List Char) → List (List Char)
  | [] => if current.isEmpty then [] else [current]
  | word :: words =>
    let limit := if words.isEmpty then lastRoom else room
    if limit < quotedLength (current ++ word) then
      if current.isEmpty then fillPieces room lastRoom word words
      else current :: fillPieces room lastRoom word words
    else fillPieces room lastRoom (current ++ word) words

/-- The pieces of the lines of a text. -/
def textPieces (room lastRoom : Int) : List (List Char) → List (List Char)
  | [] => []
  | line :: lines =>
    let limit := if lines.isEmpty then lastRoom else room
    let pieces :=
      if quotedLength line ≤ limit then [line]
      else fillPieces room limit [] (wordsWithBlanks line.length line)
    pieces ++ textPieces room lastRoom lines

/-- A text in pieces, one under the other. -/
def layoutText (p : Place) (cs : List Char) : List Char :=
  if cs.isEmpty then quotedChars cs
  else
    let room := pageWidth - p.column
    let pieces := textPieces room (room - p.allowance) (linesWithEnds cs)
    joinWith (newLine p.column) (pieces.map quotedChars)

/-! ## All values -/

mutual

/-- A value at a place. -/
def layout (p : Place) : Value → List Char
  | list items =>
    let flat := (quoted (list items)).toList
    if (flat.length : Int) ≤ p.room then flat
    else '[' :: (openingBlanks ++ layoutItems p.inside items ++ [']'])
  | map entries =>
    let flat := (quoted (map entries)).toList
    if (flat.length : Int) ≤ p.room then flat
    else '\x7b' :: (openingBlanks ++ layoutEntries p.inside entries ++ ['\x7d'])
  | text s =>
    if quotedLength s.toList ≤ p.room then quotedChars s.toList else layoutText p s.toList
  | v => (quoted v).toList

/-- Items, one under the other. -/
def layoutItems (p : Place) : List Value → List Char
  | [] => []
  | [v] => layout p v
  | v :: vs => layout { p with allowance := 1 } v ++ ',' :: (newLine p.column ++ layoutItems p vs)

/-- Entries, one under the other. -/
def layoutEntries (p : Place) : List (String × Value) → List Char
  | [] => []
  | [(k, v)] =>
    let key := quotedChars k.toList
    key ++ ':' :: ' ' :: layout { p with column := p.column + key.length + 2 } v
  | (k, v) :: es =>
    let key := quotedChars k.toList
    key ++ ':' :: ' ' :: (layout ⟨p.column + key.length + 2, 1⟩ v ++
      ',' :: (newLine p.column ++ layoutEntries p es))

end

end Entity.Value
