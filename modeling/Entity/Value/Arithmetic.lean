import Entity.Failure
import Entity.Number.Numeral
import Entity.Value.Same
import Entity.Value.Text

/-!
# Arithmetic on values

Products, sums, quotients and the order of values, and the parts of containers.  Truth values count
as numbers; a product of a sequence and an integer repeats the sequence.
-/

namespace Entity.Value

/-! ## Faults -/

/-- A fault of kind `badType`. -/
def badType (text : String) : Failure := .fault .badType text

/-- No operation between values of these kinds. -/
def noOperation (operator : String) (a b : Value) : Failure :=
  badType ("unsupported operand type(s) for " ++ operator ++ ": '" ++ a.kindName ++ "' and '" ++
    b.kindName ++ "'")

/-- A value has no member with a name. -/
def noMember (v : Value) (name : String) : Failure :=
  .fault .missingAttribute ("'" ++ v.kindName ++ "' object has no attribute '" ++ name ++ "'")

/-! ## Numbers -/

/-- The floating-point number nearest to a number. -/
def Number.toFloat : Number → Except Failure Binary64
  | .float x => .ok x
  | .int n => match Binary64.ofInt? n with
    | some x => .ok x
    | none => .error (.fault .overflow "int too large to convert to float")

/-- Combine two integers exactly, or else two floating-point numbers. -/
def Number.combine (onInts : Int → Int → Int) (onFloats : Binary64 → Binary64 → Binary64) :
    Number → Number → Except Failure Value
  | .int a, .int b => .ok (.int (onInts a b))
  | a, b => do return .float (onFloats (← a.toFloat) (← b.toFloat))

/-- The quotient of two numbers. -/
def Number.dividedBy : Number → Number → Except Failure Value
  | .int a, .int b =>
    if b = 0 then .error (.fault .zeroDivision "division by zero")
    else match Binary64.divInt a b with
      | .infinite _ => .error (.fault .overflow "integer division result too large for a float")
      | x => .ok (.float x)
  | a, b => do
    let x ← a.toFloat
    let y ← b.toFloat
    if y.isZero then .error (.fault .zeroDivision "float division by zero")
    else .ok (.float (x.div y))

/-- The integer that a text denotes. -/
def integerOfText (cs : List Char) : Except Failure Int :=
  match Numeral.int? cs with
  | some n => .ok n
  | none => .error (.fault .badValue "invalid literal for int() with base 10")

/-- The integer that a value stands for, fractions cut off. -/
def toInteger : Value → Except Failure Int
  | bool b => .ok (if b then 1 else 0)
  | int n => .ok n
  | float .nan => .error (.fault .badValue "cannot convert float NaN to integer")
  | float x => match x.truncate? with
    | some n => .ok n
    | none => .error (.fault .overflow "cannot convert float infinity to integer")
  | text s => integerOfText s.toList
  | bytes bs => integerOfText (bs.map fun b => Char.ofNat b.toNat)
  | v => badTypeOf v
where
  /-- The value is neither text nor a number. -/
  badTypeOf (v : Value) : Except Failure Int :=
    .error (badType ("int() argument must be a string, a bytes-like object or a real number, " ++
      "not '" ++ v.kindName ++ "'"))

/-! ## Products, sums and quotients -/

/-- The items `n` times over; none for a negative `n`. -/
def repeated {α : Type} (n : Int) (items : List α) : List α :=
  (List.replicate n.toNat items).flatten

/-- The sequence `n` times over, if the value is a sequence. -/
def repeat? (n : Int) : Value → Option Value
  | text s => some (text (String.ofList (repeated n s.toList)))
  | list items => some (list (repeated n items))
  | tuple items => some (tuple (repeated n items))
  | bytes bs => some (bytes (repeated n bs))
  | _ => none

/-- The value is a sequence. -/
def isSequence (v : Value) : Bool := (repeat? 0 v).isSome

/-- The integer that a value counts as. -/
def integer? (v : Value) : Option Int :=
  match v.number? with
  | some (.int n) => some n
  | _ => none

/-- A sequence cannot be repeated by a value. -/
def noRepeat (v : Value) : Failure :=
  badType ("can't multiply sequence by non-int of type '" ++ v.kindName ++ "'")

/-- A sequence times a value. -/
def repeatBy (sequence count : Value) : Except Failure Value :=
  match count.integer? with
  | some n => .ok ((sequence.repeat? n).getD sequence)
  | none => .error (noRepeat count)

/-- The product of two values. -/
def times (a b : Value) : Except Failure Value :=
  match a.number?, b.number? with
  | some x, some y => Number.combine (· * ·) Binary64.mul x y
  | _, _ =>
    if a.isSequence then repeatBy a b
    else if b.isSequence then repeatBy b a
    else .error (noOperation "*" a b)

/-- Only a sequence of the same kind can be appended. -/
def noConcatenation (a b : Value) : Failure :=
  match a with
  | bytes _ => badType ("can't concat " ++ b.kindName ++ " to bytes")
  | _ => badType ("can only concatenate " ++ a.kindName ++ " (not \"" ++ b.kindName ++ "\") to " ++
      a.kindName)

/-- The sum of two values; sequences of the same kind are put together. -/
def plus (a b : Value) : Except Failure Value :=
  match a, b with
  | text s, text t => .ok (text (s ++ t))
  | list xs, list ys => .ok (list (xs ++ ys))
  | tuple xs, tuple ys => .ok (tuple (xs ++ ys))
  | bytes xs, bytes ys => .ok (bytes (xs ++ ys))
  | a, b => match a.number?, b.number? with
    | some x, some y => Number.combine (· + ·) Binary64.add x y
    | _, _ => .error (if a.isSequence then noConcatenation a b else noOperation "+" a b)

/-- The quotient of two values. -/
def dividedBy (a b : Value) : Except Failure Value :=
  match a.number?, b.number? with
  | some x, some y => x.dividedBy y
  | _, _ => .error (noOperation "/" a b)

/-! ## Order -/

/-- Values of these kinds have no order. -/
def noOrder (a b : Value) : Failure :=
  badType ("'>' not supported between instances of '" ++ a.kindName ++ "' and '" ++
    b.kindName ++ "'")

mutual

/-- The first value is greater than the second. -/
def exceeds : Value → Value → Except Failure Bool
  | text s, text t => .ok (decide (t < s))
  | list xs, list ys => exceedsItems xs ys
  | tuple xs, tuple ys => exceedsItems xs ys
  | bytes xs, bytes ys => .ok (decide (ys < xs))
  | date d, date d' => .ok (decide (d'.day < d.day))
  | moment m, moment m' => .ok (decide (m'.micros < m.micros))
  | a, b => match a.number?, b.number? with
    | some x, some y => .ok (x.compare? y == some .gt)
    | _, _ => .error (noOrder a b)

/-- The first items that differ decide; or else the longer list is greater. -/
def exceedsItems : List Value → List Value → Except Failure Bool
  | [], _ => .ok false
  | _ :: _, [] => .ok true
  | a :: as, b :: bs => if a.equals b then exceedsItems as bs else exceeds a b

end

/-! ## Parts -/

mutual

/-- The value can stand as a key of a mapping. -/
def isKey : Value → Bool
  | list _ => false
  | map _ => false
  | entity .. => false
  | record _ _ => false
  | tuple items => areKeys items
  | _ => true

/-- All values can stand as keys. -/
def areKeys : List Value → Bool
  | [] => true
  | v :: vs => isKey v && areKeys vs

end

/-- A value cannot stand as a key. -/
def noKey (v : Value) : Failure := badType ("unhashable type: '" ++ v.kindName ++ "'")

/-- The value under a key of a mapping. -/
def entry (entries : Entries String Value) (key : Value) : Except Failure Value :=
  match key with
  | text k => match Entries.get? k entries with
    | some v => .ok v
    | none => .error (.fault .missingKey (Text.quoted k))
  | key => .error (if key.isKey then .fault .missingKey key.quoted else noKey key)

/-- The item at a position; negative positions count from the end. -/
def item {α : Type} (items : List α) (position : Int) (kind : String) : Except Failure α :=
  let i := if position < 0 then position + items.length else position
  match if i < 0 then none else items[i.toNat]? with
  | some a => .ok a
  | none => .error (.fault .badIndex (kind ++ "index out of range"))

/-- A value is no position. -/
def noPosition (kind : String) (key : Value) : Failure :=
  badType (kind ++ " indices must be integers or slices, not " ++ key.kindName)

/-- The part of a value under a key or at a position. -/
def part (v key : Value) : Except Failure Value :=
  match v, key.integer? with
  | map entries, _ => entry entries key
  | entity _ _ _ data _, _ => entry data key
  | list items, some i => item items i "list "
  | tuple items, some i => item items i "tuple "
  | text s, some i => do return text (String.singleton (← item s.toList i "string "))
  | bytes bs, some i => do return int (← item bs i "").toNat
  | list _, none => .error (noPosition "list" key)
  | tuple _, none => .error (noPosition "tuple" key)
  | bytes _, none => .error (noPosition "byte" key)
  | text _, none =>
    .error (badType ("string indices must be integers, not '" ++ key.kindName ++ "'"))
  | v, _ => .error (badType ("'" ++ v.kindName ++ "' object is not subscriptable"))

/-- The number of parts of a value. -/
def size (v : Value) : Except Failure Value :=
  let count (n : Nat) : Except Failure Value := .ok (int n)
  match v with
  | text s => count s.length
  | list items => count items.length
  | tuple items => count items.length
  | map entries => count entries.length
  | bytes bs => count bs.length
  | v => .error (badType ("object of type '" ++ v.kindName ++ "' has no len()"))

/-- A list with one more item; nothing else can be appended to. -/
def append (v x : Value) : Except Failure Value :=
  match v with
  | .list items => .ok (.list (items ++ [x]))
  | v => .error (v.noMember "append")

end Entity.Value
