import Entity.Formula.Pattern

/-!
# Reading statements

Whole pieces of code: statements on lines, with blocks of deeper lines.  Of the statements only the
names of the functions that they define are kept; everything else is read to see that it is well
formed.
-/

namespace Entity.Formula

/-- A statement of a piece of code. -/
inductive Statement where
  | function (name : String)
  | other
  deriving DecidableEq, Repr, Inhabited

/-- The marks of assignments that change a target in place. -/
def changeMarks : List String :=
  ["+=", "-=", "*=", "/=", "//=", "%=", "@=", "&=", "|=", "^=", ">>=", "<<=", "**="]

/-- The tokens after a mark of a change in place. -/
def afterChange? : List Token → Option (List Token)
  | .mark m :: ts => if changeMarks.contains m then some ts else none
  | _ => none

/-- The tokens after the end of a line. -/
def afterLine? : List Token → Option (List Token)
  | .lineEnd :: ts => some ts
  | _ => none

/-! ## Imports -/

/-- Names with points between them. -/
def dottedName? : (fuel : Nat) → List Token → Option (List Token)
  | 0, _ => none
  | fuel + 1, ts => do
    let (_, ts) ← nameFirst? ts
    match afterMark? "." ts with
    | some ts => dottedName? fuel ts
    | none => return ts

/-- Another name for what is imported, if there is one. -/
def alias? (ts : List Token) : Option (List Token) :=
  match afterWord? "as" ts with
  | some ts => (nameFirst? ts).map Prod.snd
  | none => some ts

/-- Dotted names with commas. -/
def importedModules? : (fuel : Nat) → List Token → Option (List Token)
  | 0, _ => none
  | fuel + 1, ts => do
    let ts ← alias? (← dottedName? fuel ts)
    match afterMark? "," ts with
    | some ts => importedModules? fuel ts
    | none => return ts

/-- Names with commas; between brackets a comma may follow the last. -/
def importedNames? (bracketed : Bool) : (fuel : Nat) → List Token → Option (List Token)
  | 0, _ => none
  | fuel + 1, ts => do
    let (_, ts) ← nameFirst? ts
    let ts ← alias? ts
    match afterMark? "," ts with
    | some ts =>
      if bracketed && atMark ")" ts then return ts else importedNames? bracketed fuel ts
    | none => return ts

/-- The tokens after points. -/
def skipPoints : List Token → List Token
  | .mark "." :: ts => skipPoints ts
  | .mark "..." :: ts => skipPoints ts
  | ts => ts

/-- An import of names from a module, after its first word. -/
def importFrom? (fuel : Nat) (ts : List Token) : Option (List Token) := do
  let pointed := atMark "." ts || atMark "..." ts
  let ts := skipPoints ts
  let ts ← if pointed && atWord "import" ts then some ts else dottedName? fuel ts
  let ts ← afterWord? "import" ts
  match afterMark? "*" ts, afterMark? "(" ts with
  | some ts, _ => return ts
  | none, some ts => afterMark? ")" (← importedNames? true fuel ts)
  | none, none => importedNames? false fuel ts

/-! ## Simple statements -/

/-- Names with commas. -/
def namesList? : (fuel : Nat) → List Token → Option (List Token)
  | 0, _ => none
  | fuel + 1, ts => do
    let (_, ts) ← nameFirst? ts
    match afterMark? "," ts with
    | some ts => namesList? fuel ts
    | none => return ts

mutual

/-- The tree can be deleted: a target without unpacked parts. -/
def isDeletable : Tree → Bool
  | .name _ => true
  | .member _ _ => true
  | .subscript _ _ => true
  | .tuple ts => areDeletable ts
  | .list ts => areDeletable ts
  | _ => false

/-- All trees can be deleted. -/
def areDeletable : List Tree → Bool
  | [] => true
  | t :: ts => isDeletable t && areDeletable ts

end

/-- What is assigned: expressions, or what a generator is given. -/
def assignedValue (fuel : Nat) (ts : List Token) : Reading :=
  match afterWord? "yield" ts with
  | some ts => yielded fuel ts
  | none => starExpressions fuel ts

/-- The values after targets, each after an equals sign; all but the last are targets. -/
def assignedValues? : (fuel : Nat) → List Token → Option (List Token)
  | 0, _ => none
  | fuel + 1, ts => do
    let (t, rest) ← assignedValue (fuel + 1) ts
    match afterMark? "=" rest with
    | some rest => if t.isTarget then assignedValues? fuel rest else none
    | none => return rest

/-- An assignment or an expression that stands alone. -/
def assignment? (fuel : Nat) (ts : List Token) : Option (List Token) := do
  let (t, ts) ← assignedValue fuel ts
  match afterMark? ":" ts, afterChange? ts, afterMark? "=" ts with
  | some ts, _, _ =>
    if t.isSingleTarget then
      let (_, ts) ← expression fuel ts
      match afterMark? "=" ts with
      | some ts => (assignedValue fuel ts).map Prod.snd
      | none => return ts
    else none
  | _, some ts, _ =>
    if t.isSingleTarget then (assignedValue fuel ts).map Prod.snd else none
  | _, _, some ts => if t.isTarget then assignedValues? fuel ts else none
  | none, none, none => return ts

/-- The end of a statement. -/
def atEnd (ts : List Token) : Bool := atMark ";" ts || (afterLine? ts).isSome

/-- An optional expression after the last one, behind a word or mark. -/
def optionalAfter? (fuel : Nat) (after : Option (List Token)) (ts : List Token) :
    Option (List Token) :=
  match after with
  | some ts => (expression fuel ts).map Prod.snd
  | none => some ts

/-- A statement on a line. -/
def simpleStatement? (fuel : Nat) (ts : List Token) : Option (List Token) :=
  match ts with
  | .word w :: rest =>
    if w = "pass" ∨ w = "break" ∨ w = "continue" then some rest
    else if w = "return" then
      if atEnd rest then some rest else (starExpressions fuel rest).map Prod.snd
    else if w = "raise" then
      if atEnd rest then some rest
      else do
        let (_, rest) ← expression fuel rest
        optionalAfter? fuel (afterWord? "from" rest) rest
    else if w = "global" ∨ w = "nonlocal" then namesList? fuel rest
    else if w = "del" then do
      let (t, rest) ← targets fuel rest
      if isDeletable t then return rest else none
    else if w = "assert" then do
      let (_, rest) ← expression fuel rest
      optionalAfter? fuel (afterMark? "," rest) rest
    else if w = "import" then importedModules? fuel rest
    else if w = "from" then importFrom? fuel rest
    else assignment? fuel ts
  | _ => assignment? fuel ts

/-- Statements on one line, up to its end. -/
def simpleLine? : (fuel : Nat) → List Token → Option (List Token)
  | 0, _ => none
  | fuel + 1, ts => do
    let ts ← simpleStatement? fuel ts
    match afterMark? ";" ts with
    | some ts => match afterLine? ts with
      | some ts => return ts
      | none => simpleLine? fuel ts
    | none => afterLine? ts

/-! ## Statements with blocks -/

/-- An item of a `with` statement. -/
def withItem? (fuel : Nat) (ts : List Token) : Option (List Token) := do
  let (_, ts) ← expression fuel ts
  match afterWord? "as" ts with
  | some ts => (target fuel ts).map Prod.snd
  | none => return ts

/-- Items of a `with` statement with commas; between brackets a comma may follow the last. -/
def withItems? (bracketed : Bool) : (fuel : Nat) → List Token → Option (List Token)
  | 0, _ => none
  | fuel + 1, ts => do
    let ts ← withItem? (fuel + 1) ts
    match afterMark? "," ts with
    | some ts =>
      if bracketed && atMark ")" ts then return ts else withItems? bracketed fuel ts
    | none => return ts

/-- The head of a `with` statement, up to its colon. -/
def withHead? (fuel : Nat) (ts : List Token) : Option (List Token) :=
  let inBrackets : Option (List Token) := do
    let ts ← afterMark? "(" ts
    let ts ← withItems? true fuel ts
    let ts ← afterMark? ")" ts
    afterMark? ":" ts
  match inBrackets with
  | some ts => some ts
  | none => do afterMark? ":" (← withItems? false fuel ts)

/-- What is caught, with a name or without. -/
def caught? (fuel : Nat) (ts : List Token) : Option (List Token) := do
  let (_, ts) ← expression fuel ts
  let ts ← alias? ts
  afterMark? ":" ts

/-- Decorators, each on its line. -/
def decorators? : (fuel : Nat) → List Token → Option (List Token)
  | 0, _ => none
  | fuel + 1, ts =>
    match afterMark? "@" ts with
    | none => some ts
    | some ts => do
      let (_, ts) ← namedExpression fuel ts
      decorators? fuel (← afterLine? ts)

/-- The head of a function, after its first word, up to its colon. -/
def functionHead? (fuel : Nat) (ts : List Token) : Option (String × List Token) := do
  let (name, ts) ← nameFirst? ts
  let ts ← afterMark? "(" ts
  let (_, ts) ← parameters fuel true ")" {} ts
  let ts ← optionalAfter? fuel (afterMark? "->" ts) ts
  return (name, ← afterMark? ":" ts)

/-- The head of a class, after its first word, up to its colon. -/
def classHead? (fuel : Nat) (ts : List Token) : Option (List Token) := do
  let (_, ts) ← nameFirst? ts
  match afterMark? "(" ts with
  | some ts => do
    let (_, ts) ← callArguments fuel ts
    afterMark? ":" ts
  | none => afterMark? ":" ts

mutual

/-- Statements up to the end of their block. -/
def statements : (fuel : Nat) → List Token → Option (List Statement × List Token)
  | 0, _ => none
  | fuel + 1, ts =>
    match ts with
    | [] => some ([], [])
    | .dedent :: _ => some ([], ts)
    | _ => do
      let (s, ts) ← statement fuel ts
      let (more, ts) ← statements fuel ts
      return (s :: more, ts)

/-- A block after its colon: deeper lines, or statements on the same line. -/
def block : (fuel : Nat) → List Token → Option (List Token)
  | 0, _ => none
  | fuel + 1, ts =>
    match ts with
    | .lineEnd :: .indent :: ts => do
      let (_, ts) ← statements fuel ts
      match ts with
      | .dedent :: ts => return ts
      | _ => none
    | .lineEnd :: _ => none
    | _ => simpleLine? fuel ts

/-- A block after a word and a colon, if the word is there. -/
def optionalBlock : (fuel : Nat) → (word : String) → List Token → Option (List Token)
  | 0, _, _ => none
  | fuel + 1, word, ts =>
    match afterWord? word ts with
    | some ts => do block fuel (← afterMark? ":" ts)
    | none => some ts

/-- The further branches of a condition. -/
def branches : (fuel : Nat) → List Token → Option (List Token)
  | 0, _ => none
  | fuel + 1, ts =>
    match afterWord? "elif" ts with
    | some ts => do
      let (_, ts) ← namedExpression fuel ts
      let ts ← block fuel (← afterMark? ":" ts)
      branches fuel ts
    | none => optionalBlock fuel "else" ts

/-- The handlers of a `try` statement, and how many there are; `starred` is how the first one is
written. -/
def handlers : (fuel : Nat) → (starred : Option Bool) → List Token → Option (Nat × List Token)
  | 0, _, _ => none
  | fuel + 1, starred, ts =>
    match afterWord? "except" ts with
    | none => some (0, ts)
    | some ts => do
      let isStar := atMark "*" ts
      if (starred.getD isStar) ≠ isStar then none
      else
        let ts ←
          if isStar then caught? fuel ts.tail
          else match afterMark? ":" ts with
            | some ts => some ts
            | none => caught? fuel ts
        let ts ← block fuel ts
        let (n, ts) ← handlers fuel (some isStar) ts
        return (n + 1, ts)

/-- The rest of a `try` statement after its first block. -/
def tryRest : (fuel : Nat) → List Token → Option (List Token)
  | 0, _ => none
  | fuel + 1, ts => do
    let (n, ts) ← handlers fuel none ts
    if n = 0 then
      let ts ← afterWord? "finally" ts
      block fuel (← afterMark? ":" ts)
    else
      let ts ← optionalBlock fuel "else" ts
      optionalBlock fuel "finally" ts

/-- A loop over items, after its first word. -/
def loop : (fuel : Nat) → List Token → Option (List Token)
  | 0, _ => none
  | fuel + 1, ts => do
    let (_, ts) ← targets fuel ts
    let ts ← afterWord? "in" ts
    let (_, ts) ← starExpressions fuel ts
    let ts ← block fuel (← afterMark? ":" ts)
    optionalBlock fuel "else" ts

/-- The cases of a `match` statement, each with its block. -/
def caseBlocks : (fuel : Nat) → List Token → Option (List Token)
  | 0, _ => none
  | fuel + 1, ts =>
    match afterWord? "case" ts with
    | some ts => do
      let ts ← block fuel (← caseHead? fuel ts)
      caseBlocks fuel ts
    | none => some ts

/-- A choice between cases, after its first word; there is at least one case. -/
def matching : (fuel : Nat) → List Token → Option (List Token)
  | 0, _ => none
  | fuel + 1, ts => do
    match ← subject? fuel ts with
    | .lineEnd :: .indent :: ts =>
      if !atWord "case" ts then none
      else match ← caseBlocks fuel ts with
        | .dedent :: ts => return ts
        | _ => none
    | _ => none

/-- A statement with a block, by its first word; nothing for any other word.  The word `match` is a
name where no cases follow. -/
def compound : (fuel : Nat) → (word : String) → List Token →
    Option (Option (Statement × List Token))
  | 0, _, _ => none
  | fuel + 1, word, ts =>
    if word = "def" then do
      let (name, ts) ← functionHead? fuel ts
      let ts ← block fuel ts
      return some (.function name, ts)
    else if word = "async" then
      match ts with
      | .word w :: rest =>
        if w = "def" ∨ w = "for" ∨ w = "with" then compound fuel w rest else none
      | _ => none
    else if word = "class" then do
      let ts ← block fuel (← classHead? fuel ts)
      return some (.other, ts)
    else if word = "if" then do
      let (_, ts) ← namedExpression fuel ts
      let ts ← block fuel (← afterMark? ":" ts)
      return some (.other, ← branches fuel ts)
    else if word = "while" then do
      let (_, ts) ← namedExpression fuel ts
      let ts ← block fuel (← afterMark? ":" ts)
      return some (.other, ← optionalBlock fuel "else" ts)
    else if word = "for" then do return some (.other, ← loop fuel ts)
    else if word = "with" then do
      let ts ← block fuel (← withHead? fuel ts)
      return some (.other, ts)
    else if word = "try" then do
      let ts ← block fuel (← afterMark? ":" ts)
      return some (.other, ← tryRest fuel ts)
    else if word = "match" then some ((matching fuel ts).map fun ts => (.other, ts))
    else some none

/-- A statement with its line end. -/
def statement : (fuel : Nat) → List Token → Option (Statement × List Token)
  | 0, _ => none
  | fuel + 1, ts =>
    match ts with
    | .mark "@" :: _ => do
      let ts ← decorators? fuel ts
      match ts with
      | .word w :: rest =>
        if w = "def" ∨ w = "class" ∨ (w = "async" ∧ atWord "def" rest) then
          (← compound fuel w rest)
        else none
      | _ => none
    | .word w :: rest => do
      match ← compound fuel w rest with
      | some result => return result
      | none => (simpleLine? fuel ts).map fun ts => (.other, ts)
    | _ => (simpleLine? fuel ts).map fun ts => (.other, ts)

end

/-! ## Whole texts -/

/-- A line feed ends the last line. -/
def withFinalFeed (cs : List Char) : List Char :=
  if cs.getLast? = some '\n' then cs else cs ++ ['\n']

/-- The statements of a piece of code. -/
def statementsOf (cs : List Char) : Except SyntaxProblem (List Statement) :=
  match unreadable? cs with
  | some problem => .error problem
  | none =>
    let cs := withFinalFeed (plainLineEnds cs)
    match statements (readingFuel cs.length) (tokensOf cs) with
    | some (ss, []) => .ok ss
    | _ => .error .invalid

end Entity.Formula
