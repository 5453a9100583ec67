import Entity.Entries
import Entity.Number.Binary64
import Entity.Time.Moment

/-!
# Values

The dynamic values that definitions are written with, that instances hold and that functions take
and return.  Functions are data: a function of the library, an item function made from values, or
the number of a scripted handler.
-/

namespace Entity

/-- The functions of the library, by name. -/
inductive LibraryFunction where
  | arr | label | pair | twin | active | mine | ranked | multiline | argc
  | healthScore | burnMultiple | boom | asyncScore | area | len
  deriving DecidableEq, Repr, Inhabited

/-- What an aggregate does with the values that it finds. -/
inductive AggregateFunction where
  | sum | count | avg | min | max
  deriving DecidableEq, Repr, Inhabited

/-- The kinds of record that operations answer with. -/
inductive RecordKind where
  | change | deferredExecution | deferredGeneration | generationRequest
  deriving DecidableEq, Repr, Inhabited

mutual

/-- A dynamic value. -/
inductive Value where
  | null
  | bool (b : Bool)
  | int (n : Int)
  | float (x : Binary64)
  | text (s : String)
  | list (items : List Value)
  | tuple (items : List Value)
  | map (entries : List (String × Value))
  | date (d : Date)
  | moment (m : Moment)
  | bytes (bs : List UInt8)
  /-- An identified value of a type. -/
  | entity (id type : String) (version : Int) (data : List (String × Value))
      (context : Option String)
  /-- A parsed definition, seen from outside. -/
  | definition (type : String) (id : Option String) (version : Int) (context : Option String)
  | function (f : Callable)
  /-- A path reference: a type name, an external resource or a field path. -/
  | ref (path : List String)
  /-- The instances of a type that a function selects. -/
  | query (target : String) (predicate : Callable)
  | aggregate (function : AggregateFunction) (path : String)
  | fuzzy (target : String)
  | record (kind : RecordKind) (attributes : List (String × Value))
  /-- The context that handlers of a type are given. -/
  | hooks (type : String) (version : Int)

/-- A function as data. -/
inductive Callable where
  | library (f : LibraryFunction)
  /-- The part of the argument under a key. -/
  | item (key : Value)
  /-- The argument's data has a value under a key. -/
  | itemEquals (key expected : Value)
  /-- The argument is greater than a bound. -/
  | above (bound : Value)
  /-- The argument times a factor. -/
  | scaled (factor : Value)
  /-- The identity of the argument. -/
  | identity
  | constant (value : Value)
  /-- A function whose calls are logged under a label. -/
  | traced (label : Value) (f : Callable)
  /-- A scripted handler, by number, with its label. -/
  | handler (number : Nat) (label : String)

end

instance : Inhabited Value := ⟨.null⟩

instance : Inhabited Callable := ⟨.identity⟩

/-- An identified value of a definition's type. -/
structure Instance where
  id : String
  type : String
  version : Int
  data : Entries String Value
  context : Option String
  deriving Inhabited

/-- The instance as a value. -/
def Instance.toValue (i : Instance) : Value := .entity i.id i.type i.version i.data i.context

/-- A key that begins with `$`: reserved for identity and metadata. -/
def isReserved (key : String) : Bool :=
  match key.toList with
  | '$' :: _ => true
  | _ => false

namespace Value

/-- The instance that a value is. -/
def instance? : Value → Option Instance
  | entity id type version data context => some ⟨id, type, version, data, context⟩
  | _ => none

/-- The string that a value is. -/
def text? : Value → Option String
  | text s => some s
  | _ => none

/-- The entries of a mapping. -/
def map? : Value → Option (Entries String Value)
  | map entries => some entries
  | _ => none

/-- The items of a list or tuple. -/
def items? : Value → Option (List Value)
  | list items => some items
  | tuple items => some items
  | _ => none

/-- The moment that a value is. -/
def moment? : Value → Option Moment
  | moment m => some m
  | _ => none

/-- The value is a definition without identity. -/
def isType : Value → Bool
  | definition _ id _ _ => id.isNone
  | _ => false

/-- The value is an instance, or a definition with an identity. -/
def isInstance : Value → Bool
  | definition _ id _ _ => id.isSome
  | entity _ _ _ _ _ => true
  | _ => false

/-- The function that a value is. -/
def function? : Value → Option Callable
  | function f => some f
  | _ => none

/-- A text, or nothing. -/
def ofText? : Option String → Value
  | some s => text s
  | none => null

/-- A list of texts. -/
def texts (ss : List String) : Value := list (ss.map text)

/-- The value counts as false: nothing, zero and everything empty. -/
def isFalsy : Value → Bool
  | null => true
  | bool b => !b
  | int n => n == 0
  | float x => x.isZero
  | text s => s.isEmpty
  | list items => items.isEmpty
  | tuple items => items.isEmpty
  | map entries => entries.isEmpty
  | bytes bs => bs.isEmpty
  | _ => false

/-- The value counts as true. -/
def isTruthy (v : Value) : Bool := !v.isFalsy

/-- The first value that counts as true, or else the last. -/
def firstTruthy (v : Value) : List Value → Value
  | [] => v
  | w :: ws => if v.isTruthy then v else firstTruthy w ws

/-- Read a key of a mapping; an absent key reads as nothing. -/
def lookup (entries : Entries String Value) (key : String) : Value :=
  (Entries.get? key entries).getD .null

/-- The value is there. -/
def isNull : Value → Bool
  | null => true
  | _ => false

@[simp] theorem instance?_toValue (i : Instance) : i.toValue.instance? = some i := rfl

end Value

end Entity
