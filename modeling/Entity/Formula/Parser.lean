import Entity.Formula.Fields
import Entity.Formula.Lexer
import Entity.Text.Normal

/-!
# Reading expressions

Expressions are read from tokens, from the loosest operator to the tightest.  Every function gives
the tree and the tokens that are left; `fuel` bounds the depth of the reading.
-/

namespace Entity.Formula

/-- A tree and the tokens that are left. -/
abbrev Reading := Option (Tree × List Token)

/-! ## Tokens -/

/-- Words that are no names. -/
def keywords : List String :=
  ["False", "None", "True", "and", "as", "assert", "async", "await", "break", "class", "continue",
    "def", "del", "elif", "else", "except", "finally", "for", "from", "global", "if", "import",
    "in", "is", "lambda", "nonlocal", "not", "or", "pass", "raise", "return", "try", "while",
    "with", "yield"]

/-- The tokens after a mark. -/
def afterMark? (s : String) : List Token → Option (List Token)
  | .mark m :: ts => if m = s then some ts else none
  | _ => none

/-- The tokens after a keyword. -/
def afterWord? (s : String) : List Token → Option (List Token)
  | .word w :: ts => if w = s then some ts else none
  | _ => none

/-- The next token is a mark. -/
def atMark (s : String) (ts : List Token) : Bool := (afterMark? s ts).isSome

/-- The next token is a keyword. -/
def atWord (s : String) (ts : List Token) : Bool := (afterWord? s ts).isSome

/-- A name in its normal form, and the tokens after it; a keyword is known by its letters only. -/
def nameFirst? : List Token → Option (String × List Token)
  | .word w :: ts => if keywords.contains w then none else some (Text.normalName w, ts)
  | _ => none

/-- A name that is bound to the value after it, and the tokens of the value. -/
def bindingFirst? (ts : List Token) : Option (String × List Token) := do
  let (id, rest) ← nameFirst? ts
  let rest ← afterMark? ":=" rest
  return (id, rest)

/-- A comprehension goes on. -/
def atClause (ts : List Token) : Bool :=
  atWord "for" ts || (atWord "async" ts && atWord "for" ts.tail)

/-! ## Operators -/

/-- The comparison at the start, and the tokens after it. -/
def comparison? : List Token → Option (ComparisonOperator × List Token)
  | .mark m :: ts =>
    if m = "==" then some (.eq, ts)
    else if m = "!=" then some (.ne, ts)
    else if m = "<" then some (.lt, ts)
    else if m = "<=" then some (.le, ts)
    else if m = ">" then some (.gt, ts)
    else if m = ">=" then some (.ge, ts)
    else none
  | .word w :: ts =>
    if w = "in" then some (.isIn, ts)
    else if w = "not" then (afterWord? "in" ts).map fun ts => (.notIn, ts)
    else if w = "is" then match afterWord? "not" ts with
      | some ts => some (.isNot, ts)
      | none => some (.is, ts)
    else none
  | _ => none

/-- The operators between operands, from the loosest level to the tightest. -/
def operatorLevels : List (List (String × BinaryOperator)) :=
  [[("|", .bitOr)], [("^", .bitXor)], [("&", .bitAnd)], [("<<", .shiftLeft), (">>", .shiftRight)],
    [("+", .add), ("-", .subtract)],
    [("*", .multiply), ("/", .divide), ("//", .floorDivide), ("%", .modulo),
      ("@", .matrixMultiply)]]

/-- The operator of a level at the start, and the tokens after it. -/
def operator? (level : List (String × BinaryOperator)) :
    List Token → Option (BinaryOperator × List Token)
  | .mark m :: ts => (level.lookup m).map fun op => (op, ts)
  | _ => none

/-- The prefix operator with a mark. -/
def prefixOperator? (m : String) : Option UnaryOperator :=
  if m = "+" then some .plus else if m = "-" then some .minus
  else if m = "~" then some .invert else none

/-- Operands of one operator; a single operand is itself. -/
def boolean (op : BooleanOperator) (first : Tree) (more : List Tree) : Tree :=
  if more.isEmpty then first else .boolean op (first :: more)

/-- A chain of comparisons; a single operand is itself. -/
def comparison (first : Tree) (more : List (ComparisonOperator × Tree)) : Tree :=
  if more.isEmpty then first
  else .comparison (more.map Prod.fst) (first :: more.map Prod.snd)

/-- Items with commas; a single item without a comma is itself. -/
def tupleOrItem (items : List Tree) (comma : Bool) : Tree :=
  match items, comma with
  | [item], false => item
  | _, _ => .tuple items

/-! ## Arguments -/

/-- Where the reading of arguments stands: at the first one, which may be a generator without
brackets, among plain arguments, after a named one, or after an unpacked mapping. -/
inductive ArgumentStage where
  | first | plain | named | mappings
  deriving DecidableEq, Repr, Inhabited

/-- The stage after an argument by position. -/
def ArgumentStage.next : ArgumentStage → ArgumentStage
  | first => plain
  | stage => stage

/-- The stage after a named argument. -/
def ArgumentStage.afterName : ArgumentStage → ArgumentStage
  | mappings => mappings
  | _ => named

/-- A plain argument may follow. -/
def ArgumentStage.allowsPlain : ArgumentStage → Bool
  | first | plain => true
  | _ => false

/-! ## Literals -/

/-- The text literals at the start, and the tokens after them. -/
def textsFirst : List Token → List QuotedText × List Token
  | .text t :: ts =>
    let (texts, rest) := textsFirst ts
    (t :: texts, rest)
  | ts => ([], ts)

/-- One literal of bytes from neighbouring ones; bytes and text do not mix. -/
def bytesOf? (texts : List QuotedText) : Option (List UInt8) :=
  if texts.all QuotedText.isBytes then (texts.mapM decodeBytes?).map List.flatten else none

/-! ## Parameters -/

/-- Where the reading of parameters stands. -/
structure ParameterState where
  read : List Tree := []
  slash : Bool := false
  defaulted : Bool := false
  star : Bool := false

/-- Parameters before a slash take arguments by position only. -/
def positionOnly : Tree → Tree
  | .parameter .positional id d => .parameter .positionalOnly id d
  | t => t

/-- Add a parameter with or without a default; after one with a default every positional parameter
has one. -/
def ParameterState.add? (s : ParameterState) (id : String) (default : Tree) :
    Option ParameterState :=
  if s.star then some { s with read := s.read ++ [.parameter .keywordOnly id default] }
  else if s.defaulted && !default.isPresent then none
  else some { s with
    read := s.read ++ [.parameter .positional id default]
    defaulted := s.defaulted || default.isPresent }

/-- The slash after positional parameters. -/
def ParameterState.addSlash? (s : ParameterState) : Option ParameterState :=
  if s.star || s.slash || s.read.isEmpty then none
  else some { s with read := s.read.map positionOnly, slash := true }

/-- The star, alone or with a parameter for the remaining arguments. -/
def ParameterState.addStar? (s : ParameterState) (id : Option String) : Option ParameterState :=
  if s.star then none
  else some { s with
    star := true
    read := s.read ++ id.toList.map fun id => .parameter .rest id .absent }

/-! ## Expressions -/

mutual

/-- An expression. -/
def expression : Nat → List Token → Reading
  | 0, _ => none
  | fuel + 1, ts =>
    match afterWord? "lambda" ts with
    | some ts => do
      let (ps, ts) ← parameters fuel false ":" {} ts
      let (body, ts) ← expression fuel ts
      return (.lambda ps body, ts)
    | none => do
      let (body, ts) ← disjunction fuel ts
      match afterWord? "if" ts with
      | some ts =>
        let (test, ts) ← disjunction fuel ts
        let ts ← afterWord? "else" ts
        let (otherwise, ts) ← expression fuel ts
        return (.conditional body test otherwise, ts)
      | none => return (body, ts)

/-- An expression, or a value with a name that is bound to it. -/
def namedExpression : Nat → List Token → Reading
  | 0, _ => none
  | fuel + 1, ts =>
    match bindingFirst? ts with
    | some (id, ts) => do
      let (v, ts) ← expression fuel ts
      return (.assigned id v, ts)
    | none => expression fuel ts

/-- Operands between `or`. -/
def disjunction : Nat → List Token → Reading
  | 0, _ => none
  | fuel + 1, ts => do
    let (first, ts) ← conjunction fuel ts
    let (more, ts) ← moreOr fuel ts
    return (boolean .or first more, ts)

/-- The operands after a first one, each after `or`. -/
def moreOr : Nat → List Token → Option (List Tree × List Token)
  | 0, _ => none
  | fuel + 1, ts =>
    match afterWord? "or" ts with
    | none => some ([], ts)
    | some ts => do
      let (next, ts) ← conjunction fuel ts
      let (more, ts) ← moreOr fuel ts
      return (next :: more, ts)

/-- Operands between `and`. -/
def conjunction : Nat → List Token → Reading
  | 0, _ => none
  | fuel + 1, ts => do
    let (first, ts) ← inversion fuel ts
    let (more, ts) ← moreAnd fuel ts
    return (boolean .and first more, ts)

/-- The operands after a first one, each after `and`. -/
def moreAnd : Nat → List Token → Option (List Tree × List Token)
  | 0, _ => none
  | fuel + 1, ts =>
    match afterWord? "and" ts with
    | none => some ([], ts)
    | some ts => do
      let (next, ts) ← inversion fuel ts
      let (more, ts) ← moreAnd fuel ts
      return (next :: more, ts)

/-- A comparison after any number of `not`. -/
def inversion : Nat → List Token → Reading
  | 0, _ => none
  | fuel + 1, ts =>
    match afterWord? "not" ts with
    | some ts => do
      let (t, ts) ← inversion fuel ts
      return (.unary .not t, ts)
    | none => do
      let (first, ts) ← operation fuel operatorLevels ts
      let (more, ts) ← comparisons fuel ts
      return (comparison first more, ts)

/-- Comparisons and their operands. -/
def comparisons : Nat → List Token → Option (List (ComparisonOperator × Tree) × List Token)
  | 0, _ => none
  | fuel + 1, ts =>
    match comparison? ts with
    | none => some ([], ts)
    | some (op, ts) => do
      let (next, ts) ← operation fuel operatorLevels ts
      let (more, ts) ← comparisons fuel ts
      return ((op, next) :: more, ts)

/-- Operands between the operators of the levels. -/
def operation : Nat → List (List (String × BinaryOperator)) → List Token → Reading
  | 0, _, _ => none
  | fuel + 1, [], ts => factor fuel ts
  | fuel + 1, level :: tighter, ts => do
    let (left, ts) ← operation fuel tighter ts
    moreOperands fuel level tighter left ts

/-- The operands after a first one, from the left. -/
def moreOperands : Nat → List (String × BinaryOperator) →
    List (List (String × BinaryOperator)) → Tree → List Token → Reading
  | 0, _, _, _, _ => none
  | fuel + 1, level, tighter, left, ts =>
    match operator? level ts with
    | none => some (left, ts)
    | some (op, ts) => do
      let (right, ts) ← operation fuel tighter ts
      moreOperands fuel level tighter (.binary op left right) ts

/-- A power after any number of signs. -/
def factor : Nat → List Token → Reading
  | 0, _ => none
  | fuel + 1, ts =>
    match ts with
    | .mark m :: rest => match prefixOperator? m with
      | some op => do
        let (t, rest) ← factor fuel rest
        return (.unary op t, rest)
      | none => power fuel ts
    | _ => power fuel ts

/-- A base, with an exponent or without. -/
def power : Nat → List Token → Reading
  | 0, _ => none
  | fuel + 1, ts => do
    let (base, ts) ← match afterWord? "await" ts with
      | some ts => (primary fuel ts).map fun (t, ts) => (Tree.await t, ts)
      | none => primary fuel ts
    match afterMark? "**" ts with
    | some ts =>
      let (exponent, ts) ← factor fuel ts
      return (.binary .power base exponent, ts)
    | none => return (base, ts)

/-- An atom with its members, arguments and subscripts. -/
def primary : Nat → List Token → Reading
  | 0, _ => none
  | fuel + 1, ts => do
    let (t, ts) ← atom fuel ts
    trailers fuel t ts

/-- Members, arguments and subscripts of a tree. -/
def trailers : Nat → Tree → List Token → Reading
  | 0, _, _ => none
  | fuel + 1, t, ts =>
    match ts with
    | .mark "." :: ts => do
      let (id, ts) ← nameFirst? ts
      trailers fuel (.member t id) ts
    | .mark "(" :: ts => do
      let (args, ts) ← callArguments fuel ts
      trailers fuel (.call t args) ts
    | .mark "[" :: ts => do
      let (items, comma, ts) ← subscripts fuel ts
      let isStar := items.any fun
        | .starred _ => true
        | _ => false
      trailers fuel (.subscript t (tupleOrItem items (comma || isStar))) ts
    | _ => some (t, ts)

/-- The arguments of a call, after its bracket: a generator alone, or arguments with commas. -/
def callArguments : Nat → List Token → Option (List Tree × List Token)
  | 0, _ => none
  | fuel + 1, ts => do
    let (positional, named, ts) ← arguments fuel .first ts
    return (positional ++ named, ts)

/-- Arguments up to the closing bracket: those by position, and the named ones. -/
def arguments : Nat → ArgumentStage → List Token →
    Option (List Tree × List Tree × List Token)
  | 0, _, _ => none
  | fuel + 1, stage, ts =>
    match ts with
    | .mark ")" :: ts => some ([], [], ts)
    | .mark "*" :: ts =>
      if stage = .mappings then none
      else do
        let (v, ts) ← expression fuel ts
        let (ps, ks, ts) ← moreArguments fuel stage.next ts
        return (.starred v :: ps, ks, ts)
    | .mark "**" :: ts => do
      let (v, ts) ← expression fuel ts
      let (ps, ks, ts) ← moreArguments fuel .mappings ts
      return (ps, .unpacked v :: ks, ts)
    | .word w :: .mark "=" :: rest =>
      if keywords.contains w then none
      else do
        let (v, rest) ← expression fuel rest
        let (ps, ks, rest) ← moreArguments fuel stage.afterName rest
        return (ps, .keyword (Text.normalName w) v :: ks, rest)
    | _ =>
      if !stage.allowsPlain then none
      else do
        let (v, ts) ← namedExpression fuel ts
        if stage = .first ∧ atClause ts then
          let (cs, ts) ← clauses fuel ts
          let ts ← afterMark? ")" ts
          return ([.comprehension .generator v cs], [], ts)
        else
          let (ps, ks, ts) ← moreArguments fuel stage.next ts
          return (v :: ps, ks, ts)

/-- What follows an argument: the closing bracket, or a comma and more arguments. -/
def moreArguments : Nat → ArgumentStage → List Token →
    Option (List Tree × List Tree × List Token)
  | 0, _, _ => none
  | fuel + 1, stage, ts =>
    match ts with
    | .mark ")" :: ts => some ([], [], ts)
    | .mark "," :: ts => arguments fuel stage ts
    | _ => none

/-- The subscripts up to the closing bracket, and whether there is a comma. -/
def subscripts : Nat → List Token → Option (List Tree × Bool × List Token)
  | 0, _ => none
  | fuel + 1, ts => do
    let (item, ts) ← subscriptItem fuel ts
    match ts with
    | .mark "]" :: ts => return ([item], false, ts)
    | .mark "," :: .mark "]" :: ts => return ([item], true, ts)
    | .mark "," :: ts =>
      let (items, _, ts) ← subscripts fuel ts
      return (item :: items, true, ts)
    | _ => none

/-- One subscript: an index, a slice or an unpacked sequence. -/
def subscriptItem : Nat → List Token → Reading
  | 0, _ => none
  | fuel + 1, ts =>
    match ts with
    | .mark "*" :: ts => do
      let (v, ts) ← expression fuel ts
      return (.starred v, ts)
    | .mark ":" :: ts => sliceAfter fuel .absent ts
    | _ => do
      let (t, rest) ← namedExpression fuel ts
      match rest, bindingFirst? ts with
      | .mark ":" :: rest, none => sliceAfter fuel t rest
      | _, _ => return (t, rest)

/-- A slice after its first colon. -/
def sliceAfter : Nat → Tree → List Token → Reading
  | 0, _, _ => none
  | fuel + 1, low, ts => do
    let (high, ts) ← sliceBound fuel ts
    match ts with
    | .mark ":" :: ts =>
      let (step, ts) ← sliceBound fuel ts
      return (.slice low high step, ts)
    | _ => return (.slice low high .absent, ts)

/-- A bound of a slice, or nothing. -/
def sliceBound : Nat → List Token → Reading
  | 0, _ => none
  | fuel + 1, ts =>
    if atMark ":" ts || atMark "," ts || atMark "]" ts then some (.absent, ts)
    else expression fuel ts

/-- A name, a literal, or something between brackets. -/
def atom : Nat → List Token → Reading
  | 0, _ => none
  | fuel + 1, ts =>
    match ts with
    | .word w :: rest =>
      if w = "None" then some (.literal .nothing, rest)
      else if w = "True" then some (.literal (.bool true), rest)
      else if w = "False" then some (.literal (.bool false), rest)
      else if keywords.contains w then none
      else some (.name (Text.normalName w), rest)
    | .number l :: rest => some (.literal l, rest)
    | .text _ :: _ =>
      let (texts, rest) := textsFirst ts
      (joinedTexts fuel texts).map fun t => (t, rest)
    | .mark "..." :: rest => some (.literal .ellipsis, rest)
    | .mark "(" :: rest => parenthesised fuel rest
    | .mark "[" :: rest => bracketed fuel rest
    | .mark "\x7b" :: rest => braced fuel rest
    | _ => none

/-- What stands between round brackets, after the first: a tuple, a generator or one expression. -/
def parenthesised : Nat → List Token → Reading
  | 0, _ => none
  | fuel + 1, ts =>
    match ts with
    | .mark ")" :: ts => some (.tuple [], ts)
    | .word "yield" :: ts => do
      let (t, ts) ← yielded fuel ts
      let ts ← afterMark? ")" ts
      return (t, ts)
    | _ => do
      let (first, rest) ← item fuel ts
      match rest with
      | .mark "," :: rest =>
        let (more, rest) ← items fuel ")" rest
        return (.tuple (first :: more), rest)
      | _ =>
        if atMark "*" ts then none
        else if atClause rest then
          let (cs, rest) ← clauses fuel rest
          let rest ← afterMark? ")" rest
          return (.comprehension .generator first cs, rest)
        else
          let rest ← afterMark? ")" rest
          return (first, rest)

/-- What stands between square brackets, after the first: a list or a comprehension. -/
def bracketed : Nat → List Token → Reading
  | 0, _ => none
  | fuel + 1, ts =>
    match ts with
    | .mark "]" :: ts => some (.list [], ts)
    | _ => do
      let (first, rest) ← item fuel ts
      if atClause rest then
        if atMark "*" ts then none
        else
          let (cs, rest) ← clauses fuel rest
          let rest ← afterMark? "]" rest
          return (.comprehension .list first cs, rest)
      else
        let (more, rest) ← moreItems fuel "]" rest
        return (.list (first :: more), rest)

/-- What stands between braces, after the first: a mapping, a set or a comprehension. -/
def braced : Nat → List Token → Reading
  | 0, _ => none
  | fuel + 1, ts =>
    match ts with
    | .mark "\x7d" :: ts => some (.dict [], ts)
    | .mark "**" :: _ => (entries fuel ts).map fun (es, ts) => (.dict es, ts)
    | _ => do
      let (first, rest) ← item fuel ts
      match rest with
      | .mark ":" :: rest =>
        if atMark "*" ts || (bindingFirst? ts).isSome then none
        else
          let (v, rest) ← expression fuel rest
          if atClause rest then
            let (cs, rest) ← clauses fuel rest
            let rest ← afterMark? "\x7d" rest
            return (.comprehension .dict (.entry first v) cs, rest)
          else
            let (more, rest) ← moreEntries fuel rest
            return (.dict (.entry first v :: more), rest)
      | _ =>
        if atClause rest then
          if atMark "*" ts then none
          else
            let (cs, rest) ← clauses fuel rest
            let rest ← afterMark? "\x7d" rest
            return (.comprehension .set first cs, rest)
        else
          let (more, rest) ← moreItems fuel "\x7d" rest
          return (.set (first :: more), rest)

/-- An item of a display: an unpacked sequence or an expression. -/
def item : Nat → List Token → Reading
  | 0, _ => none
  | fuel + 1, ts =>
    match ts with
    | .mark "*" :: ts => do
      let (t, ts) ← operation fuel operatorLevels ts
      return (.starred t, ts)
    | _ => namedExpression fuel ts

/-- Items with commas up to a closing bracket. -/
def items : Nat → String → List Token → Option (List Tree × List Token)
  | 0, _, _ => none
  | fuel + 1, close, ts =>
    match afterMark? close ts with
    | some ts => some ([], ts)
    | none => do
      let (first, ts) ← item fuel ts
      let (more, ts) ← moreItems fuel close ts
      return (first :: more, ts)

/-- What follows an item: the closing bracket, or a comma and more items. -/
def moreItems : Nat → String → List Token → Option (List Tree × List Token)
  | 0, _, _ => none
  | fuel + 1, close, ts =>
    match afterMark? close ts with
    | some ts => some ([], ts)
    | none => do
      let ts ← afterMark? "," ts
      items fuel close ts

/-- Entries of a mapping up to the closing brace. -/
def entries : Nat → List Token → Option (List Tree × List Token)
  | 0, _ => none
  | fuel + 1, ts =>
    match ts with
    | .mark "\x7d" :: ts => some ([], ts)
    | .mark "**" :: ts => do
      let (v, ts) ← operation fuel operatorLevels ts
      let (more, ts) ← moreEntries fuel ts
      return (.unpacked v :: more, ts)
    | _ => do
      let (k, ts) ← expression fuel ts
      let ts ← afterMark? ":" ts
      let (v, ts) ← expression fuel ts
      let (more, ts) ← moreEntries fuel ts
      return (.entry k v :: more, ts)

/-- What follows an entry: the closing brace, or a comma and more entries. -/
def moreEntries : Nat → List Token → Option (List Tree × List Token)
  | 0, _ => none
  | fuel + 1, ts =>
    match ts with
    | .mark "\x7d" :: ts => some ([], ts)
    | .mark "," :: ts => entries fuel ts
    | _ => none

/-- The clauses of a comprehension. -/
def clauses : Nat → List Token → Option (List Tree × List Token)
  | 0, _ => none
  | fuel + 1, ts => do
    let isAsync := atWord "async" ts
    let ts ← afterWord? "for" (if isAsync then ts.tail else ts)
    let (target, ts) ← targets fuel ts
    let ts ← afterWord? "in" ts
    let (source, ts) ← disjunction fuel ts
    let (tests, ts) ← conditions fuel ts
    let clause := Tree.clause isAsync target source tests
    if atClause ts then
      let (more, ts) ← clauses fuel ts
      return (clause :: more, ts)
    else return ([clause], ts)

/-- The conditions of a clause. -/
def conditions : Nat → List Token → Option (List Tree × List Token)
  | 0, _ => none
  | fuel + 1, ts =>
    match afterWord? "if" ts with
    | none => some ([], ts)
    | some ts => do
      let (t, ts) ← disjunction fuel ts
      let (more, ts) ← conditions fuel ts
      return (t :: more, ts)

/-- Targets with commas. -/
def targets : Nat → List Token → Reading
  | 0, _ => none
  | fuel + 1, ts => do
    let (first, ts) ← target fuel ts
    let (more, comma, ts) ← moreTargets fuel ts
    return (tupleOrItem (first :: more) comma, ts)

/-- The targets after a first one, and whether there is a comma. -/
def moreTargets : Nat → List Token → Option (List Tree × Bool × List Token)
  | 0, _ => none
  | fuel + 1, ts =>
    match afterMark? "," ts with
    | none => some ([], false, ts)
    | some ts => match target fuel ts with
      | none => some ([], true, ts)
      | some (next, ts) => do
        let (more, _, ts) ← moreTargets fuel ts
        return (next :: more, true, ts)

/-- A target. -/
def target : Nat → List Token → Reading
  | 0, _ => none
  | fuel + 1, ts =>
    match ts with
    | .mark "*" :: ts =>
      if atMark "*" ts then none
      else do
        let (t, ts) ← target fuel ts
        return (.starred t, ts)
    | _ => do
      let (t, ts) ← primary fuel ts
      if t.isTarget then return (t, ts) else none

/-- What follows `yield`. -/
def yielded : Nat → List Token → Reading
  | 0, _ => none
  | fuel + 1, ts =>
    match ts with
    | .word "from" :: ts => do
      let (t, ts) ← expression fuel ts
      return (.yieldFrom t, ts)
    | _ => match starExpressions fuel ts with
      | some (t, ts) => some (.yield t, ts)
      | none => some (.yield .absent, ts)

/-- Expressions and unpacked sequences with commas. -/
def starExpressions : Nat → List Token → Reading
  | 0, _ => none
  | fuel + 1, ts => do
    let (first, ts) ← starExpression fuel ts
    let (more, comma, ts) ← moreStarExpressions fuel ts
    return (tupleOrItem (first :: more) comma, ts)

/-- The expressions after a first one, and whether there is a comma. -/
def moreStarExpressions : Nat → List Token → Option (List Tree × Bool × List Token)
  | 0, _ => none
  | fuel + 1, ts =>
    match afterMark? "," ts with
    | none => some ([], false, ts)
    | some ts => match starExpression fuel ts with
      | none => some ([], true, ts)
      | some (next, ts) => do
        let (more, _, ts) ← moreStarExpressions fuel ts
        return (next :: more, true, ts)

/-- An expression or an unpacked sequence. -/
def starExpression : Nat → List Token → Reading
  | 0, _ => none
  | fuel + 1, ts =>
    match ts with
    | .mark "*" :: ts => do
      let (t, ts) ← operation fuel operatorLevels ts
      return (.starred t, ts)
    | _ => expression fuel ts

/-- Parameters up to a closing mark; those of named functions may have annotations. -/
def parameters : Nat → (annotated : Bool) → (close : String) → ParameterState → List Token →
    Option (List Tree × List Token)
  | 0, _, _, _, _ => none
  | fuel + 1, annotated, close, s, ts =>
    match ts with
    | .mark "/" :: ts => do
      moreParameters fuel annotated close (← s.addSlash?) ts
    | .mark "*" :: .mark "," :: ts =>
      if (nameFirst? ts).isNone then none
      else do parameters fuel annotated close (← s.addStar? none) ts
    | .mark "*" :: ts => do
      let (id, ts) ← nameFirst? ts
      let ts ← annotation fuel annotated true ts
      moreParameters fuel annotated close (← s.addStar? (some id)) ts
    | .mark "**" :: ts => do
      let (id, ts) ← nameFirst? ts
      let ts ← annotation fuel annotated false ts
      let ts := (afterMark? "," ts).getD ts
      let ts ← afterMark? close ts
      return (s.read ++ [.parameter .keywords id .absent], ts)
    | _ => match afterMark? close ts with
      | some ts => some (s.read, ts)
      | none => do
        let (id, ts) ← nameFirst? ts
        let ts ← annotation fuel annotated false ts
        match afterMark? "=" ts with
        | none => moreParameters fuel annotated close (← s.add? id .absent) ts
        | some ts =>
          let (d, ts) ← expression fuel ts
          moreParameters fuel annotated close (← s.add? id d) ts

/-- What follows a parameter: the closing mark, or a comma and more parameters. -/
def moreParameters : Nat → Bool → String → ParameterState → List Token →
    Option (List Tree × List Token)
  | 0, _, _, _, _ => none
  | fuel + 1, annotated, close, s, ts =>
    match afterMark? close ts with
    | some ts => some (s.read, ts)
    | none => do
      let ts ← afterMark? "," ts
      parameters fuel annotated close s ts

/-- The tokens after the annotation of a parameter, if there is one. -/
def annotation : Nat → (annotated star : Bool) → List Token → Option (List Token)
  | 0, _, _, _ => none
  | fuel + 1, annotated, star, ts =>
    if !annotated then some ts
    else match afterMark? ":" ts with
      | none => some ts
      | some ts =>
        (if star then starExpression fuel ts else expression fuel ts).map Prod.snd

/-- Neighbouring text literals are one: bytes, a text, or a formatted text. -/
def joinedTexts : Nat → List QuotedText → Option Tree
  | 0, _ => none
  | fuel + 1, texts =>
    if texts.any QuotedText.isBytes then (bytesOf? texts).map fun bs => .literal (.bytes bs)
    else do
      let parts ← textParts fuel texts
      if texts.any QuotedText.isFormatted then return .formatted parts
      else
        let marked := (texts.head?.map QuotedText.isMarked).getD false
        match parts with
        | [.literal (.text cs _)] => return .literal (.text cs marked)
        | _ => return .literal (.text [] marked)

/-- The parts of neighbouring text literals. -/
def textParts : Nat → List QuotedText → Option (List Tree)
  | 0, _ => none
  | _ + 1, [] => some []
  | fuel + 1, t :: texts => do
    let first ←
      if t.isFormatted then
        match ← partsOf fuel t.isRaw 0 t.body with
        | (parts, []) => some parts
        | _ => none
      else (decodeBody? false t.isRaw t.body).map fun cs => beforeParts cs []
    return joinParts first (← textParts fuel texts)

/-- The parts of a formatted text, and what is left of it; `level` counts the fields around it. -/
def partsOf : Nat → (isRaw : Bool) → (level : Nat) → List Char → Option (List Tree × List Char)
  | 0, _, _, _ => none
  | fuel + 1, isRaw, level, cs => do
    let run ← literalRun? isRaw (level == 0) false cs
    let text ← decodeBody? false isRaw run.literal
    if run.continues then
      let (parts, rest) ← partsOf fuel isRaw level run.rest
      return (beforeParts text parts, rest)
    else match run.rest with
      | '\x7b' :: rest =>
        let (self, f, rest) ← fieldOf fuel isRaw level rest
        let (parts, rest) ← partsOf fuel isRaw level rest
        return (beforeParts (text ++ self) (f :: parts), rest)
      | rest => return (beforeParts text [], rest)

/-- A field after its brace: the text it shows of itself, the field, and the rest. -/
def fieldOf : Nat → (isRaw : Bool) → (level : Nat) → List Char →
    Option (List Char × Tree × List Char)
  | 0, _, _, _ => none
  | fuel + 1, isRaw, level, cs =>
    if 2 ≤ level then none
    else do
      let (e, rest) ← fieldExpression? {} 0 cs
      if isBlankField e || rest.isEmpty then none
      else
        let (value, ts) ← starExpressions fuel (tokensOf ('(' :: (e ++ [')'])))
        if !ts.isEmpty then none
        else
          let (self, rest) := selfText? e rest
          let (conversion, rest) ← conversion? rest
          let (format, rest) ← match rest with
            | ':' :: rest =>
              (partsOf fuel isRaw (level + 1) rest).map fun (ps, rest) =>
                ([Tree.formatted ps], rest)
            | rest => some ([], rest)
          let shown :=
            if self.isSome && format.isEmpty && conversion.isNone then some 'r' else conversion
          match rest with
          | '\x7d' :: rest => return (self.getD [], .field value shown format, rest)
          | _ => none

end

/-! ## Whole texts -/

/-- Fuel for reading a text of a length. -/
def readingFuel (length : Nat) : Nat := 40 * length + 100

/-- The expressions after a first one, and whether there is a comma. -/
def moreExpressions : Nat → List Token → Option (List Tree × Bool × List Token)
  | 0, _ => none
  | fuel + 1, ts =>
    match afterMark? "," ts with
    | none => some ([], false, ts)
    | some ts => match expression fuel ts with
      | none => some ([], true, ts)
      | some (next, ts) => do
        let (more, _, ts) ← moreExpressions fuel ts
        return (next :: more, true, ts)

/-- Expressions with commas. -/
def expressions (fuel : Nat) (ts : List Token) : Reading := do
  let (first, ts) ← expression fuel ts
  let (more, comma, ts) ← moreExpressions fuel ts
  return (tupleOrItem (first :: more) comma, ts)

/-- Why a text is no expression. -/
inductive SyntaxProblem where
  | invalid
  /-- A line is indented where none may be. -/
  | indentation
  /-- The text holds half of a surrogate pair. -/
  | unpairedHalf
  deriving DecidableEq, Repr, Inhabited

/-- Why a text is not even looked at: it holds half of a pair, or the character with code 0. -/
def unreadable? (cs : List Char) : Option SyntaxProblem :=
  if cs.any Text.holdsHalf then some .unpairedHalf
  else if cs.contains '\x00' then some .invalid
  else none

/-- The expression that a text holds. -/
def expressionOf (cs : List Char) : Except SyntaxProblem Tree :=
  match unreadable? cs with
  | some problem => .error problem
  | none =>
    let cs := plainLineEnds cs
    let ts := tokensOf cs
    if ts.head? = some .indent then .error .indentation
    else match expressions (readingFuel cs.length) ts with
      | none => .error .invalid
      | some (t, rest) => match rest.dropWhile (· == .lineEnd) with
        | [] => .ok t
        | .indent :: _ => .error .indentation
        | _ => .error .invalid

end Entity.Formula
