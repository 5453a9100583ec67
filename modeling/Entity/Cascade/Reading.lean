import Entity.Cascade
import Entity.Number.Numeral
import Entity.Outcome
import Entity.Text.Split
import Entity.Text.Word

/-!
# Reading cascades

The cascade grammar: an optional route parameter `:name`, a prompt, an operator, and a target with
an optional predicate and an optional filter in square brackets.  The operator is the longest one at
the leftmost place where one stands with something after it.
-/

namespace Entity

open Entity.Text

/-! ## Filter values -/

/-- The longest prefix of word characters, and the rest. -/
def wordPrefix (cs : List Char) : List Char × List Char := cs.span isWord

/-- A decimal number: an optional minus, digits, and optionally a point and digits. -/
def isDecimalNumber (cs : List Char) : Bool :=
  let body := match cs with
    | '-' :: rest => rest
    | _ => cs
  let (whole, rest) := body.span isDecimal
  !whole.isEmpty && match rest with
    | [] => true
    | '.' :: part => !part.isEmpty && part.all isDecimal
    | _ => false

/-- The value that a filter text denotes: a truth value, a number or the text itself. -/
def FilterValue.ofText (raw : String) : Except Failure FilterValue :=
  let cs := trim raw.toList
  if cs = "true".toList then .ok (.bool true)
  else if cs = "false".toList then .ok (.bool false)
  else if isDecimalNumber cs then
    if '.' ∈ cs then .ok (.float ((Numeral.float? cs).getD .nan))
    else match Numeral.int? cs with
      | some n => .ok (.int n)
      | none => .error (.fault .badValue "Exceeds the limit for integer string conversion")
  else .ok (.text (String.ofList cs))

/-! ## Filter clauses -/

/-- The comparisons that begin a text, longest first, each with the text after it. -/
def comparators : List Char → List (Comparator × List Char)
  | '=' :: rest => [(.eq, rest)]
  | '!' :: '=' :: rest => [(.ne, rest)]
  | '>' :: '=' :: rest => [(.ge, rest), (.gt, '=' :: rest)]
  | '<' :: '=' :: rest => [(.le, rest), (.lt, '=' :: rest)]
  | '>' :: rest => [(.gt, rest)]
  | '<' :: rest => [(.lt, rest)]
  | _ => []

/-- The value text after a comparison: not empty once blanks before it are dropped, and on one
line. -/
def valueText? (rest : List Char) : Option (List Char) :=
  let cs := trimStart rest
  if cs.isEmpty || cs.contains '\n' then none else some cs

/-- The parts of a trimmed filter clause: field, comparison and value text. -/
def clauseParts? (clause : List Char) : Option (List Char × Comparator × List Char) :=
  let (field, rest) := wordPrefix clause
  if field.isEmpty then none
  else (comparators (trimStart rest)).findSome? fun (comparator, after) =>
    (valueText? after).map fun value => (field, comparator, value)

/-- The trimmed clauses between commas that are not empty. -/
def filterClauses (cs : List Char) : List (List Char) :=
  ((splitAt ',' cs).map trim).filter (· ≠ [])

/-- Read clauses into filters and rejected clauses, each in order. -/
def readClauses : List (List Char) → Except Failure (List Filter × List String)
  | [] => .ok ([], [])
  | clause :: clauses =>
    match clauseParts? clause with
    | none => (readClauses clauses).map fun (fs, rs) => (fs, String.ofList clause :: rs)
    | some (field, comparator, raw) => do
      let value ← FilterValue.ofText (String.ofList raw)
      let (fs, rs) ← readClauses clauses
      return (⟨String.ofList field, comparator, value⟩ :: fs, rs)

/-- The filters of a text, and the clauses that have no comparison. -/
def readFilters (text : String) : Except Failure (List Filter × List String) :=
  readClauses (filterClauses text.toList)

/-! ## Operators, routes and targets -/

/-- A route parameter and the text after it, in a trimmed text. -/
def route? : List Char → Option (List Char × List Char)
  | ':' :: cs =>
    let (name, rest) := wordPrefix cs
    let body := trimStart rest
    if name.isEmpty || body.length = rest.length || body.isEmpty then none
    else some (name, body)
  | _ => none

/-- The longest operator that begins a text and has something after it. -/
def operatorAt? (cs : List Char) : Option (CascadeOperator × List Char) :=
  CascadeOperator.all.findSome? fun op =>
    match afterStart? op.token.toList cs with
    | some (c :: rest) => some (op, c :: rest)
    | _ => none

/-- The text before the leftmost operator, the operator, and the text after it. -/
def splitOperator? : List Char → Option (List Char × CascadeOperator × List Char)
  | [] => none
  | c :: cs =>
    match operatorAt? (c :: cs) with
    | some (op, rest) => some ([], op, rest)
    | none => (splitOperator? cs).map fun (before, op, after) => (c :: before, op, after)

/-- The leftmost non-empty text between square brackets: the text before it, the text inside, and
the text after it. -/
def bracketed? : List Char → Option (List Char × List Char × List Char)
  | [] => none
  | c :: cs =>
    let here := if c = '[' then
        match cutAt? ']' cs with
        | some (i :: inside, after) => some ([], i :: inside, after)
        | _ => none
      else none
    match here with
    | some found => some found
    | none => (bracketed? cs).map fun (before, inside, after) => (c :: before, inside, after)

/-- A target of two words with a point between them. -/
def dotted? (cs : List Char) : Option (List Char × List Char) :=
  let (first, rest) := wordPrefix cs
  match rest with
  | '.' :: second => if !first.isEmpty && !second.isEmpty && second.all isWord then
      some (first, second) else none
  | _ => none

/-! ## Cascades -/

/-- The text without its route parameter, and the parameter. -/
def withoutRoute (cs : List Char) : Option (List Char) × List Char :=
  match route? (trim cs) with
  | some (name, body) => (some name, body)
  | none => (none, cs)

/-- Read the target of a cascade with its filters and predicate. -/
def readTarget (cs : List Char) :
    Except Failure (String × Option String × List Filter × List String) := do
  let (target, filters, rejected) ← match bracketed? cs with
    | some (before, inside, after) => do
      let (fs, rs) ← readFilters (String.ofList inside)
      pure (trim (before ++ after), fs, rs)
    | none => pure (cs, [], [])
  return match dotted? target with
    | some (type, field) => (String.ofList type, some (String.ofList field), filters, rejected)
    | none => (String.ofList target, none, filters, rejected)

/-- The cascade that a text denotes, if it has an operator. -/
def Cascade.read? (text : String) : Except Failure (Option Cascade) :=
  let (route, body) := withoutRoute text.toList
  match splitOperator? body with
  | none => .ok none
  | some (before, operator, after) => do
    let (target, predicate, filters, rejected) ← readTarget (trim after)
    let prompt := trim before
    return some {
      operator, target, predicate, filters, rejected
      route := route.map String.ofList
      prompt := if prompt.isEmpty then none else some (String.ofList prompt) }

/-- The warnings for the clauses of a text that were rejected. -/
def Cascade.warnings (text : String) (c : Option Cascade) : List Warning :=
  match c with
  | some c => c.rejected.map fun clause => .droppedClause clause text
  | none => []

/-- Read a cascade text: its description and the cascade; a text without an operator is its own
description. -/
def Cascade.read (text : String) : Outcome (String × Option Cascade) := do
  let c ← Cascade.read? text
  Outcome.warnAll (Cascade.warnings text c)
  return ((c.map Cascade.description).getD text, c)

/-- The text denotes a cascade. -/
def Cascade.isCascade (text : String) : Outcome Bool := do
  return (← Cascade.read text).2.isSome

end Entity
