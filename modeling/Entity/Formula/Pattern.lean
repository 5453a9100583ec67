import Entity.Formula.Parser

/-!
# Reading patterns

The patterns of a `match` statement: literals, names, sequences, mappings, classes, and choices
between them.  A pattern is read to see that it is well formed; what is given are the tokens after
it.
-/

namespace Entity.Formula

/-! ## Literals -/

/-- The number is a multiple of the imaginary unit. -/
def Literal.isImaginary : Literal → Bool
  | imaginary _ => true
  | _ => false

/-- A number with a minus or without: whether it is imaginary, and the tokens after it. -/
def signedNumber? : List Token → Option (Bool × List Token)
  | .mark "-" :: .number l :: ts => some (l.isImaginary, ts)
  | .number l :: ts => some (l.isImaginary, ts)
  | _ => none

/-- A number, or the sum or difference of a real and an imaginary number. -/
def numberPattern? (ts : List Token) : Option (List Token) := do
  let (imaginary, rest) ← signedNumber? ts
  if atMark "+" rest || atMark "-" rest then
    match rest.tail with
    | .number l :: rest => if !imaginary && l.isImaginary then return rest else none
    | _ => none
  else return rest

/-- A constant: a word, a number or text literals. -/
def literalPattern? (fuel : Nat) (ts : List Token) : Option (List Token) :=
  match ts with
  | .word w :: rest => if ["None", "True", "False"].contains w then some rest else none
  | .text _ :: _ =>
    let (texts, rest) := textsFirst ts
    (joinedTexts fuel texts).map fun _ => rest
  | _ => numberPattern? ts

/-! ## Names -/

/-- The tokens after a name that a pattern binds; a low line alone binds nothing. -/
def captured? : List Token → Option (List Token)
  | .word w :: ts => if w = "_" then none else (nameFirst? (.word w :: ts)).map Prod.snd
  | _ => none

/-- The tokens after points and names. -/
def members? : (fuel : Nat) → List Token → Option (List Token)
  | 0, _ => none
  | fuel + 1, ts => match afterMark? "." ts with
    | some ts => do
      let (_, ts) ← nameFirst? ts
      members? fuel ts
    | none => some ts

/-- The tokens after a value with a dotted name. -/
def dottedValue? (fuel : Nat) (ts : List Token) : Option (List Token) := do
  let (_, ts) ← nameFirst? ts
  if atMark "." ts then members? fuel ts else none

/-- The tokens after a key of a mapping. -/
def patternKey? (fuel : Nat) (ts : List Token) : Option (List Token) :=
  match literalPattern? fuel ts with
  | some rest => some rest
  | none => dottedValue? fuel ts

/-! ## Patterns -/

/-- Patterns without brackets end before a condition or a colon. -/
def atPatternsEnd (ts : List Token) : Bool := atWord "if" ts || atMark ":" ts

mutual

/-- A pattern, with a name for what it matches or without. -/
def pattern : (fuel : Nat) → List Token → Option (List Token)
  | 0, _ => none
  | fuel + 1, ts => do
    let ts ← choice fuel ts
    match afterWord? "as" ts with
    | some ts => captured? ts
    | none => return ts

/-- Patterns with bars between them. -/
def choice : (fuel : Nat) → List Token → Option (List Token)
  | 0, _ => none
  | fuel + 1, ts => do
    let ts ← closedPattern fuel ts
    match afterMark? "|" ts with
    | some ts => choice fuel ts
    | none => return ts

/-- A pattern that needs no brackets. -/
def closedPattern : (fuel : Nat) → List Token → Option (List Token)
  | 0, _ => none
  | fuel + 1, ts =>
    match literalPattern? fuel ts with
    | some rest => some rest
    | none => match ts with
      | .mark "(" :: ts => patternGroup fuel ts
      | .mark "[" :: ts => do afterMark? "]" (← patternItems fuel (atMark "]") ts)
      | .mark "\x7b" :: ts => patternEntries fuel ts
      | .word "_" :: ts => some ts
      | _ => do
        let (_, ts) ← nameFirst? ts
        let ts ← members? fuel ts
        if atMark "=" ts then none
        else match afterMark? "(" ts with
          | some ts => patternArguments fuel .first ts
          | none => return ts

/-- A pattern, or a starred name for the remaining items. -/
def patternItem : (fuel : Nat) → List Token → Option (List Token)
  | 0, _ => none
  | fuel + 1, ts => match afterMark? "*" ts with
    | some ts => (nameFirst? ts).map Prod.snd
    | none => pattern fuel ts

/-- Items with commas, the last with or without one, up to where they end. -/
def patternItems : (fuel : Nat) → (ends : List Token → Bool) → List Token → Option (List Token)
  | 0, _, _ => none
  | fuel + 1, ends, ts =>
    if ends ts then some ts
    else do
      let ts ← patternItem fuel ts
      match afterMark? "," ts with
      | some ts => patternItems fuel ends ts
      | none => return ts

/-- What stands between round brackets, after the first: one pattern, or items with a comma. -/
def patternGroup : (fuel : Nat) → List Token → Option (List Token)
  | 0, _ => none
  | fuel + 1, ts => match afterMark? ")" ts with
    | some ts => some ts
    | none => do
      let rest ← patternItem fuel ts
      match afterMark? "," rest with
      | some rest => afterMark? ")" (← patternItems fuel (atMark ")") rest)
      | none => if atMark "*" ts then none else afterMark? ")" rest

/-- Entries of a mapping up to its closing brace; the last may take the remaining entries. -/
def patternEntries : (fuel : Nat) → List Token → Option (List Token)
  | 0, _ => none
  | fuel + 1, ts => match afterMark? "\x7d" ts, afterMark? "**" ts with
    | some ts, _ => some ts
    | none, some ts => do
      let ts ← captured? ts
      afterMark? "\x7d" ((afterMark? "," ts).getD ts)
    | none, none => do
      let ts ← afterMark? ":" (← patternKey? fuel ts)
      let ts ← pattern fuel ts
      match afterMark? "," ts with
      | some ts => patternEntries fuel ts
      | none => afterMark? "\x7d" ts

/-- The arguments of a class pattern up to the closing bracket.  After a named one all are named;
the low line is no name after one by position. -/
def patternArguments : (fuel : Nat) → ArgumentStage → List Token → Option (List Token)
  | 0, _, _ => none
  | fuel + 1, stage, ts => match afterMark? ")" ts with
    | some ts => some ts
    | none => do
      let name := (nameFirst? ts).bind fun (_, ts) => afterMark? "=" ts
      if stage = .named ∧ name.isNone ∨ stage = .plain ∧ name.isSome ∧ atWord "_" ts then none
      else
        let ts ← pattern fuel (name.getD ts)
        match afterMark? "," ts with
        | some ts =>
          patternArguments fuel (if name.isSome then stage.afterName else stage.next) ts
        | none => afterMark? ")" ts

end

/-! ## Heads -/

/-- The subject of a `match` statement, up to its colon: an expression, or items with a comma. -/
def subject? (fuel : Nat) (ts : List Token) : Option (List Token) := do
  let (_, rest) ← item fuel ts
  match afterMark? "," rest with
  | some rest => (items fuel ":" rest).map Prod.snd
  | none => if atMark "*" ts then none else afterMark? ":" rest

/-- The head of a case, after its first word, up to its colon: patterns, and a condition if there
is one. -/
def caseHead? (fuel : Nat) (ts : List Token) : Option (List Token) := do
  let rest ← patternItem fuel ts
  let rest ← match afterMark? "," rest with
    | some rest => patternItems fuel atPatternsEnd rest
    | none => if atMark "*" ts then none else some rest
  match afterWord? "if" rest with
  | some rest => do
    let (_, rest) ← namedExpression fuel rest
    afterMark? ":" rest
  | none => afterMark? ":" rest

end Entity.Formula
