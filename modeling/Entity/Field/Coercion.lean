import Entity.Field
import Entity.Number.Numeral
import Entity.Text.Case

/-!
# Coercion

A fetched value is brought into the shape of a field where its meaning is plain: numeric text
becomes a number, and the words for true and false become truth values.
-/

namespace Entity

open Entity.Text

/-- The number that a text denotes: an integer, unless the text has a point or a fractional value.
-/
def numericText? (s : String) : Option Value :=
  (Numeral.float? s.toList).map fun x =>
    match x.truncate? with
    | some n => if x.isIntegral && !s.toList.contains '.' then .int n else .float x
    | none => .float x

/-- Words for true. -/
def trueWords : List String := ["true", "1", "yes"]

/-- Words for false. -/
def falseWords : List String := ["false", "0", "no"]

/-- The truth value that a text denotes, in any letter case and with blanks around it. -/
def truthText? (s : String) : Option Bool :=
  let word := toLower (trimmed s)
  if trueWords.contains word then some true
  else if falseWords.contains word then some false
  else none

/-- Bring a value into the shape of a field; a value that does not fit stays as it is. -/
def Primitive.coerce (type : Primitive) (v : Value) : Value :=
  match type, v with
  | .number, .text s => (numericText? s).getD v
  | .boolean, .text s => ((truthText? s).map Value.bool).getD v
  | .boolean, .int n => .bool (n != 0)
  | _, _ => v

end Entity
