import Entity.Value.Same

/-!
# Matching by reference

Values that refer to instances are compared by identity: an instance, a mapping with `$id` and the
plain identity all refer to the same thing.  A list matches what one of its items matches.
-/

namespace Entity

/-- The identity that a value refers to, or the value itself. -/
def referenceOf (v : Value) : Value :=
  match v with
  | .entity id _ _ _ _ => .text id
  | .map entries => (Entries.get? "$id" entries).getD v
  | _ => v

/-- The parts of a number by name. -/
def partsOfNumber (v : Value) : Entries String Value :=
  match v.number? with
  | some (.int n) =>
    [("real", .int n), ("imag", .int 0), ("numerator", .int n), ("denominator", .int 1)]
  | some (.float x) => [("real", .float x), ("imag", .float (.zero false))]
  | none => []

/-- The parts of a calendar day by name. -/
def partsOfDate (d : Date) : Entries String Value :=
  let (year, month, day) := d.parts
  [("year", .int year), ("month", .int month), ("day", .int day)]

/-- The parts of a moment by name. -/
def partsOfMoment (m : Moment) : Entries String Value :=
  partsOfDate m.date ++ [("hour", .int m.hourOfDay), ("minute", .int m.minuteOfHour),
    ("second", .int m.secondOfMinute), ("microsecond", .int m.microOfSecond)]

/-- The parts of a value that is no container, by name. -/
def partsOf (v : Value) : Entries String Value :=
  match v with
  | .date d => partsOfDate d
  | .moment m => partsOfMoment m
  | .definition type id version context => [("type", .text type), ("id", Value.ofText? id),
      ("version", .int version), ("context", Value.ofText? context)]
  | v => partsOfNumber v

/-- What a field of an item holds; `$id` and `$type` of an instance are its identity and type. -/
def fieldOf (item : Value) (field : String) : Value :=
  match item with
  | .entity id type _ data _ =>
    if field = "$id" then .text id
    else if field = "$type" then .text type
    else Value.lookup data field
  | .map entries => Value.lookup entries field
  | v => Value.lookup (partsOf v) field

/-- Two values that are not taken apart match: they are equal or refer to the same thing. -/
def refersToSame (actual expected : Value) : Bool :=
  actual.equals expected || (referenceOf actual).equals (referenceOf expected)

mutual

/-- A value matches what is expected; a list does when an item does, unless a list is expected. -/
def valueMatches (actual expected : Value) : Bool :=
  match actual with
  | .list items =>
    if expected.items?.isSome then refersToSame actual expected else anyMatches items expected
  | .tuple items =>
    if expected.items?.isSome then refersToSame actual expected else anyMatches items expected
  | _ => refersToSame actual expected

/-- Some item matches what is expected. -/
def anyMatches (items : List Value) (expected : Value) : Bool :=
  match items with
  | [] => false
  | v :: vs => valueMatches v expected || anyMatches vs expected

end

/-- Every field of the criteria matches. -/
def meets (item : Value) (criteria : Entries String Value) : Bool :=
  criteria.all fun (field, expected) => valueMatches (fieldOf item field) expected

end Entity
