import Entity.Definition
import Entity.Formula.Source
import Entity.Outcome
import Entity.Text.Word

/-!
# Entries of generated modules

A compute field or a link filter becomes an entry of a table: a function in brackets, the name of a
function that stands before the tables, or a stand-in for code that is missing or cannot be read.
-/

namespace Entity.Module

open Entity.Text

/-! ## Names -/

/-- The text with a low line for every character that is no word character. -/
def wordCharacters (cs : List Char) : List Char := cs.map fun c => if isWord c then c else '_'

/-- The name that a module exports. -/
def exportIdentifier (name : String) : String :=
  let id := wordCharacters name.toList
  match id with
  | [] => "_"
  | c :: _ => String.ofList (if isAnyDigit c then '_' :: id else id)

/-- The two tables of a module. -/
inductive EntryTable where
  | compute | filter
  deriving DecidableEq, Repr, Inhabited

/-- What the names of the functions of a table begin with. -/
def EntryTable.start : EntryTable → String
  | compute => "_compute"
  | filter => "_filter"

/-- The parameters of formulas in a table. -/
def EntryTable.parameters : EntryTable → String
  | compute => Formula.defaultRecord
  | filter => "item, context=None"

/-- The name of the function of a field. -/
def EntryTable.functionName (table : EntryTable) (field : String) : String :=
  table.start ++ "_" ++ String.ofList (wordCharacters field.toList)

/-! ## Functions under a new name -/

/-- What follows the head of a function with a name: the word, blanks, the name, blanks and a
bracket; `before` is the character before the head. -/
def afterHead? (name : List Char) (before : Option Char) (cs : List Char) : Option (List Char) :=
  if (before.map isWord).getD false then none
  else do
    let rest ← afterStart? "def".toList cs
    if (rest.head?.map isBlank).getD false then
      let rest ← afterStart? name (trimStart rest)
      afterStart? ['('] (trimStart rest)
    else none

/-- The text with a new name at the first head of a function. -/
def renameFunction (name new : List Char) (before : Option Char) : List Char → List Char
  | [] => []
  | c :: cs =>
    match afterHead? name before (c :: cs) with
    | some rest => "def ".toList ++ new ++ '(' :: rest
    | none => c :: renameFunction name new (some c) cs

/-! ## Entries -/

/-- An entry, and the functions that it needs before the tables. -/
structure Entry where
  text : String
  functions : List String := []
  deriving DecidableEq, Repr, Inhabited

/-- The stand-in for code that is missing or cannot be read. -/
def unavailable (field code : String) : Entry :=
  { text := "_unavailable(" ++ quoted field ++ ", " ++ quoted code ++ ")" }

/-- The text of the function that code stands for: functions as they are, formulas compiled. -/
def functionText (parameters : String) (code : List Char) : Except Failure (List Char) :=
  let text := trim (Formula.dedent code)
  if Formula.isFunctionSource text then
    match Formula.statementsOf text with
    | .ok _ => .ok text
    | .error problem => .error problem.toFailure
  else (Formula.compile (String.ofList text) parameters).map String.toList

/-- The failure is one of syntax. -/
def isSyntaxFailure : Failure → Bool
  | .fault .badSyntax _ => true
  | .fault .badIndentation _ => true
  | _ => false

/-- The entry for the text of a function. -/
def Entry.ofFunction (table : EntryTable) (field code : String) (text : List Char) :
    Except Failure Entry := do
  if beginsWith "lambda".toList text then return { text := "(" ++ String.ofList text ++ ")" }
  else match ← Formula.functionName? text with
    | none => return unavailable field code
    | some name =>
      let new := table.functionName field
      let renamed := renameFunction name.toList new.toList none text
      return { text := new, functions := [String.ofList renamed] }

/-- The entry for the code of a field. -/
def Entry.ofCode (table : EntryTable) (field : String) (code : Option String) : Outcome Entry := do
  match nonEmpty? code with
  | none =>
    Outcome.warn (.noSource field)
    return unavailable field ""
  | some code => match functionText table.parameters code.toList with
    | .ok text => Entry.ofFunction table field code text
    | .error e =>
      if isSyntaxFailure e then do
        Outcome.warn (.invalidCode field)
        return unavailable field code
      else Outcome.fail e

/-! ## Link filters -/

/-- The condition that a filter clause stands for. -/
def clauseCode (f : Filter) : String :=
  let arguments := [quoted f.field, quoted f.comparator.token, f.value.toValue.quoted]
  "_match(item, " ++ join ", " arguments ++ ")"

/-- The conditions on the instances of a link: that they refer back, and the filter clauses. -/
def conditionCodes (c : Cascade) : List String :=
  let refers := match nonEmpty? c.predicate with
    | some p =>
      if c.operator.isIncoming then
        ["_refers_to(_path(item, " ++ quoted p ++ "), context)"]
      else []
    | none => []
  refers ++ c.filters.map clauseCode

/-- The entry for the filter of a link, if it has one. -/
def Entry.ofLink (field : String) (c : Cascade) : Outcome (Option Entry) := do
  match c.selector with
  | some f => return some (← Entry.ofCode .filter field f.text?)
  | none => match conditionCodes c with
    | [] => return none
    | codes => return some {
        text := "(lambda item, context=None: " ++ join " and " codes ++ ")" }

end Entity.Module
