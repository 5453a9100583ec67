import Entity.Journal
import Entity.Text.Case
import Entity.Value.Arithmetic

/-!
# Calling functions

The results of the functions of the library and of item functions.  Scripted handlers are not called
here: what they do needs a definition that is bound to storage.
-/

namespace Entity

/-! ## Arguments -/

/-- The parameters of a function; those after the required ones have defaults. -/
structure Parameters where
  names : List String
  required : Nat

/-- Parameters without defaults. -/
def Parameters.ofNames (names : List String) : Parameters := ⟨names, names.length⟩

/-- Names between quotes, with `and` before the last. -/
def quotedNames : List String → String
  | [] => ""
  | [a] => Text.quoted a
  | [a, b] => Text.quoted a ++ " and " ++ Text.quoted b
  | a :: names => Text.quoted a ++ ", " ++ quotedNames names

/-- A noun for a number of things. -/
def counted (n : Nat) (noun : String) : String := noun ++ (if n = 1 then "" else "s")

/-- The numbers of arguments that a function takes. -/
def Parameters.range (p : Parameters) : String :=
  if p.required = p.names.length then
    toString p.required ++ " " ++ counted p.required "positional argument"
  else
    "from " ++ toString p.required ++ " to " ++ toString p.names.length ++ " positional arguments"

/-- A call has to give every required argument and no more than there are parameters. -/
def Parameters.check (p : Parameters) (name : String) (n : Nat) : Except Failure Unit :=
  if p.names.length < n then
    .error (Value.badType (name ++ "() takes " ++ p.range ++ " but " ++ toString n ++
      (if n = 1 then " was given" else " were given")))
  else if n < p.required then
    let missing := (p.names.take p.required).drop n
    .error (Value.badType (name ++ "() missing " ++ toString missing.length ++ " required " ++
      counted missing.length "positional argument" ++ ": " ++ quotedNames missing))
  else .ok ()

/-- The parameters of a library function; some take any arguments. -/
def LibraryFunction.parameters? : LibraryFunction → Option Parameters
  | arr | multiline => some (.ofNames ["r"])
  | label | healthScore | burnMultiple | asyncScore => some (.ofNames ["record"])
  | pair => some (.ofNames ["b", "c"])
  | twin => some (.ofNames ["x"])
  | active => some (.ofNames ["c"])
  | mine => some ⟨["item", "context"], 1⟩
  | area => some ⟨["record", "scale"], 1⟩
  | ranked | argc | boom | len => none

/-! ## Library functions -/

/-- The part of a value under a key. -/
def partOf (v : Value) (key : String) : Except Failure Value := v.part (.text key)

/-- The text or bytes in capitals. -/
def inCapitals : Value → Except Failure Value
  | .text s => .ok (.text (Text.toUpper s))
  | .bytes bs => .ok (.bytes (bs.map fun b => if 97 ≤ b ∧ b ≤ 122 then b - 32 else b))
  | v => .error (Value.noMember v "upper")

/-- The result of a library function for arguments that it takes. -/
def LibraryFunction.result (f : LibraryFunction) (args : List Value) : Except Failure Value :=
  match f, args with
  | arr, [r] => do (← partOf r "mrr").times (.int 12)
  | label, [r] => do inCapitals (← partOf r "name")
  | pair, [b, c] => b.times c
  | twin, [x] => x.plus (.int 2)
  | active, [c] => do return .bool ((← partOf c "status").equals (.text "active"))
  | mine, [_] => .ok (.bool false)
  | mine, [_, .null] => .ok (.bool false)
  | mine, [item, context] => do
    return .bool ((← partOf item "owner").equals (← partOf context "id"))
  | multiline, [r] => do (← partOf r "a").plus (← partOf r "b")
  | healthScore, [r] => do (← partOf r "stars").plus (← (← partOf r "forks").times (.int 2))
  | burnMultiple, [r] => do
    if (← partOf r "netNew").isFalsy then return .null
    else (← partOf r "burn").dividedBy (← partOf r "netNew")
  | asyncScore, _ => .ok (.int 1)
  | area, [r] => do (← partOf r "w").times (← partOf r "h")
  | area, [r, scale] => do (← (← partOf r "w").times (← partOf r "h")).times scale
  | ranked, _ => .ok (.text "ranked")
  | argc, args => .ok (.int args.length)
  | boom, _ => .error (.fault .badValue "boom")
  | len, [v] => v.size
  | len, args => .error (Value.badType ("len() takes exactly one argument (" ++
      toString args.length ++ " given)"))
  | _, _ => .ok .null

/-- The result of a library function. -/
def LibraryFunction.call (f : LibraryFunction) (args : List Value) : Except Failure Value := do
  match f.parameters? with
  | some p => p.check f.name args.length
  | none => pure ()
  f.result args

/-! ## Item functions -/

/-- The data of an instance, or the entries of a mapping. -/
def dataOf : Value → Except Failure (Entries String Value)
  | .map entries => .ok entries
  | .entity _ _ _ data _ => .ok data
  | v => .error (Value.noMember v "get")

/-- The data has a value under a key. -/
def dataHas (v key expected : Value) : Except Failure Value := do
  let data ← dataOf v
  match key with
  | .text k => return .bool ((Value.lookup data k).equals expected)
  | key => if key.isKey then return .bool (Value.null.equals expected) else .error (Value.noKey key)

/-- The identity of a value. -/
def identityOf : Value → Except Failure Value
  | .entity id _ _ _ _ => .ok (.text id)
  | .definition _ id _ _ => .ok (Value.ofText? id)
  | v => .error (Value.noMember v "id")

/-- The result of an item function, with the calls of traced functions. -/
def Callable.onItem (f : Callable) (v : Value) : Journal × Except Failure Value :=
  match f with
  | library f => ([], f.call [v])
  | item key => ([], v.part key)
  | itemEquals key expected => ([], dataHas v key expected)
  | above bound => ([], (v.exceeds bound).map Value.bool)
  | scaled factor => ([], v.times factor)
  | identity => ([], identityOf v)
  | constant value => ([], .ok value)
  | handler _ _ => ([], .ok .null)
  | traced label f =>
    let (calls, result) := f.onItem v
    (.traced label v :: calls, result)

/-- The result of a function that is no scripted handler, with the calls of traced functions. -/
def Callable.call (f : Callable) (args : List Value) : Journal × Except Failure Value :=
  match f, args with
  | library f, args => ([], f.call args)
  | f, [v] => f.onItem v
  | _, args =>
    ([], (Parameters.check (.ofNames ["item"]) "<lambda>" args.length).map fun _ => .null)

end Entity
