import Entity.Text.Split

/-!
# Arguments

The words of a command line as options and the words beside them.  An option is written with its
letter or its name; its value follows in the same word or in the next one.  A word that says nothing
ends the options.
-/

namespace Entity.Command

open Entity.Text

/-- An option. -/
structure OptionForm where
  name : String
  letter : Option Char := none
  hasValue : Bool := true
  deriving DecidableEq, Repr, Inhabited

/-- The options that were given, in order, and the words beside them. -/
structure Given where
  options : List (String × String) := []
  words : List String := []
  deriving DecidableEq, Repr, Inhabited

/-- The value of an option; of several the last one counts. -/
def Given.value? (g : Given) (name : String) : Option String := g.options.reverse.lookup name

/-- The letters of a word after its dash: options without values, and at most one with a value,
which is the rest of the word or else the next word.  The result is what was given and the words
left. -/
def letters? (forms : List OptionForm) (rest : List String) :
    List Char → Option (List (String × String) × List String)
  | [] => some ([], rest)
  | c :: cs =>
    match forms.find? fun f => f.letter == some c with
    | none => none
    | some f =>
      if f.hasValue then
        match cs, rest with
        | [], [] => none
        | [], value :: rest => some ([(f.name, value)], rest)
        | cs, rest => some ([(f.name, String.ofList cs)], rest)
      else (letters? forms rest cs).map fun (found, rest) => ((f.name, "") :: found, rest)

/-- The options that a word after two dashes gives, and the words left. -/
def named? (forms : List OptionForm) (rest : List String) (word : List Char) :
    Option (List (String × String) × List String) :=
  let (name, value) := match cutAt? '=' word with
    | some (name, value) => (String.ofList name, some (String.ofList value))
    | none => (String.ofList word, none)
  match forms.find? fun f => f.name == name with
  | none => none
  | some f => match f.hasValue, value, rest with
    | true, some value, rest => some ([(name, value)], rest)
    | true, none, value :: rest => some ([(name, value)], rest)
    | false, none, rest => some ([(name, "")], rest)
    | _, _, _ => none

/-- Read words; where they may not be mixed, the first word that is no option ends the options. -/
def readWords (forms : List OptionForm) (mixed : Bool) : (fuel : Nat) → List String → Option Given
  | _, [] => some {}
  | 0, _ => none
  | fuel + 1, word :: rest =>
    let more (found : Option (List (String × String) × List String)) : Option Given := do
      let (options, rest) ← found
      let g ← readWords forms mixed fuel rest
      return { g with options := options ++ g.options }
    match word.toList with
    | ['-', '-'] => some { words := rest }
    | '-' :: '-' :: cs => more (named? forms rest cs)
    | '-' :: c :: cs => more (letters? forms rest (c :: cs))
    | _ =>
      if mixed then (readWords forms mixed fuel rest).map fun g =>
        { g with words := word :: g.words }
      else some { words := word :: rest }

/-- The options and words of a command line, if it has the right form. -/
def given? (forms : List OptionForm) (mixed : Bool) (words : List String) : Option Given :=
  readWords forms mixed words.length words

end Entity.Command
