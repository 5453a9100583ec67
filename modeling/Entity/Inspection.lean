import Entity.Definition
import Entity.Terminal.Markup
import Entity.Terminal.Table

/-!
# Inspecting definitions

The overview of a definition on a terminal: what it is, its fields in a table, and its functions.
-/

namespace Entity

open Entity.Text Entity.Terminal

/-- The width of the terminal. -/
def terminalWidth : Nat := 200

/-! ## Parts -/

/-- Text with markup as lines on a terminal. -/
def markupLines (cs : List Char) : Except Failure (List (List Char)) :=
  (shown cs).map (wrapped .fold true terminalWidth)

/-- What the definition is. -/
def Definition.heading (d : Definition) : List Char :=
  d.type.toList ++ " v".toList ++ (toString d.version).toList ++
    match nonEmpty? d.parent with
    | some parent => " (extends ".toList ++ parent.toList ++ [')']
    | none => []

/-- A text between the tags that open and close a look. -/
def styled (tag : String) (cs : List Char) : List Char :=
  ('[' :: tag.toList ++ [']']) ++ cs ++ ("[/".toList ++ tag.toList ++ [']'])

/-- What a field says beside its name and type: its relationship or else its description. -/
def Field.detail (f : Field) : String := (f.cascade.map Cascade.toGrammar).getD f.description

/-- A column of texts with markup. -/
def markupColumn (heading : String) (wraps : Bool) (cells : List (List Char)) :
    Except Failure Column :=
  (cells.mapM shown).map fun cells => ⟨heading.toList, cells, wraps⟩

/-- The table of the fields.  Names may hold markup; other texts stand for themselves. -/
def fieldTable (fields : Entries String Field) : Except Failure (List (List Char)) := do
  let column (heading : String) (cell : Field → String) :=
    markupColumn heading true (fields.map fun e => escape (cell e.2).toList)
  return tableLines terminalWidth "Fields".toList
    [← markupColumn "Field" false (fields.map fun e => e.1.toList),
      ← column "Source" fun f => f.source.name,
      ← column "Type" fun f => f.type.name,
      ← column "Detail" Field.detail,
      ← column "Issues" fun f => join "; " f.issues]

/-- The names of the functions, in order. -/
def functionList (names : List String) : List Char :=
  "Functions: ".toList ++ (join ", " (names.mergeSort fun a b => decide (a ≤ b))).toList

/-! ## The overview -/

/-- The overview in the order in which it is shown; what has a fault ends it. -/
def Definition.inspection (d : Definition) : List (Except Failure (List (List Char))) :=
  let context := match nonEmpty? d.context with
    | some c => [markupLines ("Context: ".toList ++ styled "cyan" (escape c.toList))]
    | none => []
  let functions := match d.functions with
    | [] => []
    | fs => [.ok [[]], markupLines (functionList fs.keys)]
  [markupLines (styled "bold" (escape d.heading))] ++ context ++ [.ok [[]]] ++
    if d.fields.isEmpty then [markupLines (styled "yellow" "No fields.".toList)]
    else fieldTable d.fields :: functions

end Entity
