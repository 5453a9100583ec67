import Entity.Field

/-!
# Definitions

A definition is a named, versioned type of entities: fields, relationships and handlers, together
with the mapping that it was read from.
-/

namespace Entity

/-- A source outside the program that feeds fields. -/
structure Enrichment where
  source : Option String := none
  resource : Option String := none
  /-- Templates of the parameters. -/
  params : Entries String String := []
  cache : Option String := none
  auth : Option String := none
  keyWord : Option String := none
  deriving DecidableEq, Repr, Inhabited

/-- The source or the resource, whichever is given. -/
def Enrichment.endpoint (e : Enrichment) : String :=
  match Text.nonEmpty? e.source with
  | some s => s
  | none => e.resource.getD ""

/-- A parsed definition and the mapping that it was read from. -/
structure Definition where
  raw : Entries String Value
  type : String
  /-- The identity; only definitions of single instances have one. -/
  id : Option String
  version : Int
  context : Option String
  /-- The parent type. -/
  parent : Option String
  seed : Value
  enrichments : List Enrichment
  fields : Entries String Field
  /-- The relationships of the fields that have one. -/
  cascades : Entries String Cascade
  events : Entries String Callable
  schedules : Entries String Callable
  crons : Entries String Callable
  migrations : Entries Nat Callable
  deriving Inhabited

namespace Definition

/-- The definition is of a single instance. -/
def isInstance (d : Definition) : Bool := d.id.isSome

/-- The fields that can be called by name. -/
def functions (d : Definition) : Entries String FunctionField :=
  d.fields.filterMap fun (name, f) => f.function?.map fun g => (name, g)

/-- The names of the fields with a source. -/
def namesBySource (d : Definition) (s : Source) : List String :=
  (d.fields.filter fun e => e.2.source == s).map Prod.fst

/-- The fields with a source. -/
def fieldsBySource (d : Definition) (s : Source) : Entries String Field :=
  d.fields.filter fun e => e.2.source == s

/-- How the definition shows itself. -/
def toText (d : Definition) : String := definitionText d.type d.id d.version

/-- The definition as a value. -/
def toValue (d : Definition) : Value := .definition d.type d.id d.version d.context

end Definition

end Entity
