import Entity.Value

/-!
# Sameness of values

Values are compared by meaning: truth values count as the numbers 0 and 1, numbers of both kinds
compare exactly, the order of a mapping's entries does not matter, and a not-a-number differs from
itself unless both sides are the very same object.
-/

namespace Entity.Value

/-! ## Numbers -/

/-- A number: an integer or a floating-point number. -/
inductive Number where
  | int (n : Int)
  | float (x : Binary64)
  deriving Inhabited

/-- The number that a value counts as. -/
def number? : Value → Option Number
  | bool b => some (.int (if b then 1 else 0))
  | int n => some (.int n)
  | float x => some (.float x)
  | _ => none

/-- The exact order of two numbers, if they have one. -/
def Number.compare? : Number → Number → Option Ordering
  | .int a, .int b => some (compare a b)
  | .int a, .float y => (y.compareInt? a).map Ordering.swap
  | .float x, .int b => x.compareInt? b
  | .float x, .float y => x.compare? y

/-- The two numbers are equal; `shared` says that two not-a-numbers are the same object. -/
def Number.same (shared : Bool) : Number → Number → Bool
  | .float .nan, .float .nan => shared
  | a, b => a.compare? b == some .eq

/-! ## All values -/

mutual

/-- The two values mean the same; `shared` says that objects in both are the same objects. -/
def same (shared : Bool) : Value → Value → Bool
  | null, null => true
  | text a, text b => a == b
  | list as, list bs => sameList shared as bs
  | tuple as, tuple bs => sameList shared as bs
  | map as, map bs => as.length == bs.length && sameEntries shared as bs
  | date a, date b => a == b
  | moment a, moment b => a == b
  | bytes a, bytes b => a == b
  | entity id type version data context, entity id' type' version' data' context' =>
    id == id' && type == type' && version == version' && context == context' &&
      data.length == data'.length && sameEntries shared data data'
  | definition type id version context, definition type' id' version' context' =>
    shared && type == type' && id == id' && version == version' && context == context'
  | ref a, ref b => a == b
  | query a p, query b q => a == b && sameFunction shared p q
  | aggregate f a, aggregate g b => f == g && a == b
  | fuzzy a, fuzzy b => a == b
  | function f, function g => sameFunction shared f g
  | record k as, record k' bs => k == k' && as.length == bs.length && sameEntries shared as bs
  | hooks _ _, hooks _ _ => true
  | bool a, v => sameNumber shared (.int (if a then 1 else 0)) v
  | int a, v => sameNumber shared (.int a) v
  | float a, v => sameNumber shared (.float a) v
  | _, _ => false

/-- A number is the same as a value. -/
def sameNumber (shared : Bool) (a : Number) (v : Value) : Bool :=
  match v.number? with
  | some b => a.same shared b
  | none => false

/-- Lists of the same length with the same items. -/
def sameList (shared : Bool) : List Value → List Value → Bool
  | [], [] => true
  | a :: as, b :: bs => same shared a b && sameList shared as bs
  | _, _ => false

/-- Every entry has an entry with the same key and value on the other side. -/
def sameEntries (shared : Bool) : List (String × Value) → List (String × Value) → Bool
  | [], _ => true
  | (k, a) :: as, bs =>
    (match Entries.get? k bs with
      | some b => same shared a b
      | none => false) && sameEntries shared as bs

/-- The functions are one object. -/
def sameFunction (shared : Bool) : Callable → Callable → Bool
  | .library f, .library g => f == g
  | .handler a _, .handler b _ => a == b
  | .item a, .item b => shared && same shared a b
  | .itemEquals a c, .itemEquals b d => shared && same shared a b && same shared c d
  | .above a, .above b => shared && same shared a b
  | .scaled a, .scaled b => shared && same shared a b
  | .identity, .identity => true
  | .constant a, .constant b => shared && same shared a b
  | .traced a f, .traced b g => shared && same shared a b && sameFunction shared f g
  | _, _ => false

end

/-- The two values mean the same, for values that were built apart. -/
def equals (a b : Value) : Bool := same false a b

end Entity.Value
