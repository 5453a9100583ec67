import Entity.Field
import Entity.Text.Split

/-!
# Annotations in field text

A type in brackets at the end of a field text, and alternatives between vertical bars.
-/

namespace Entity

open Entity.Text

/-! ## Type suffixes -/

/-- The types that may stand in brackets at the end of a text. -/
def suffixTypes : List Primitive := [.number, .date, .boolean]

/-- The text without a type in brackets at its end, in any letter case, and the type. -/
def typeSuffix? (cs : List Char) : Option (List Char × Primitive) :=
  let body := trimEnd cs
  suffixTypes.findSome? fun type =>
    let suffix := '(' :: (type.name.toList ++ [')'])
    let kept := body.length - suffix.length
    if suffix.length ≤ body.length ∧ (body.drop kept).map Char.toLower = suffix then
      some (trim (body.take kept), type)
    else none

/-- A text without its type suffix, and the type; without one the text is unchanged. -/
def splitTypeSuffix (text : String) : String × Option Primitive :=
  match typeSuffix? text.toList with
  | some (rest, type) => (String.ofList rest, some type)
  | none => (text, none)

/-! ## Enumerations -/

/-- The alternatives between vertical bars, trimmed; there are at least two, and none is empty. -/
def enumAlternatives? (cs : List Char) : Option (List (List Char)) :=
  let values := (splitAt '|' cs).map trim
  if values.length < 2 ∨ [] ∈ values then none else some values

/-- The alternatives of an enumeration text. -/
def enumValues? (text : String) : Option (List String) :=
  (enumAlternatives? text.toList).map (·.map String.ofList)

/-- The text of an enumeration. -/
def enumText (values : List String) : String := join " | " values

end Entity
