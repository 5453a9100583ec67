import Entity.Text.Split
import Entity.Text.Word
import Entity.Value.Text

/-!
# Templates

A template is a text with placeholders: a name of word characters between braces.  Rendering fills
in the placeholders whose names have a value and leaves the others as they are.
-/

namespace Entity.Template

open Entity.Text

/-! ## Placeholders -/

/-- Scan for placeholders; `open?` is the name read since the last opening brace, in reverse. -/
def scan (open? : Option (List Char)) : List Char → List (List Char)
  | [] => []
  | c :: cs =>
    if c = '\x7b' then scan (some []) cs
    else match open? with
      | none => scan none cs
      | some name =>
        if isWord c then scan (some (c :: name)) cs
        else if c = '\x7d' ∧ name ≠ [] then name.reverse :: scan none cs
        else scan none cs

/-- The names of all placeholders, in order, repeated ones included. -/
def placeholders (cs : List Char) : List (List Char) := scan none cs

/-- The elements in order of first appearance, each once. -/
def firstAppearances {α : Type} [DecidableEq α] : List α → List α
  | [] => []
  | a :: as => a :: (firstAppearances as).filter (· ≠ a)

/-- The names of the placeholders of a text, in order of first appearance. -/
def names (text : String) : List String :=
  firstAppearances ((placeholders text.toList).map String.ofList)

/-- The text has a placeholder. -/
def hasPlaceholder (text : String) : Bool := placeholders text.toList ≠ []

/-! ## Placeholders in values -/

mutual

/-- The texts of a value, in order; entries under keys that begin with `$` are passed over. -/
def texts : Value → List String
  | .text s => [s]
  | .list items => textsOfItems items
  | .tuple items => textsOfItems items
  | .map entries => textsOfEntries entries
  | _ => []

/-- The texts of the items of a list. -/
def textsOfItems : List Value → List String
  | [] => []
  | v :: vs => texts v ++ textsOfItems vs

/-- The texts of the entries of a mapping. -/
def textsOfEntries : List (String × Value) → List String
  | [] => []
  | (k, v) :: es => (if isReserved k then [] else texts v) ++ textsOfEntries es

end

/-- Some text of the value has a placeholder. -/
def valueHasPlaceholder (v : Value) : Bool := (texts v).any hasPlaceholder

/-! ## Rendering -/

/-- A placeholder for a name. -/
def placeholder (name : String) : List Char := '\x7b' :: (name.toList ++ ['\x7d'])

/-- Fill in one placeholder wherever it stands, if its name has a value. -/
def fill (values : Entries String Value) (text : List Char) (name : String) : List Char :=
  match Entries.get? name values with
  | none => text
  | some .null => text
  | some v => replaceAll (placeholder name) v.shown.toList text

/-- Fill in the placeholders for the names, one name after the other. -/
def render (template : String) (names : List String) (values : Entries String Value) : String :=
  String.ofList (names.foldl (fill values) template.toList)

/-- Fill in the placeholders of a template. -/
def renderAll (template : String) (values : Entries String Value) : String :=
  render template (names template) values

end Entity.Template
