import Entity.Number.Shortest
import Entity.Text.Quoted
import Entity.Text.Split
import Entity.Value

/-!
# The text of a value

A value has a shown form, in which a text stands as it is, and a quoted form, in which a text stands
between quotes; inside lists, mappings and records the quoted form is used.
-/

namespace Entity

/-- The name of an aggregate function. -/
def AggregateFunction.name : AggregateFunction → String
  | sum => "sum"
  | count => "count"
  | avg => "avg"
  | min => "min"
  | max => "max"

/-- All aggregate functions. -/
def AggregateFunction.all : List AggregateFunction := [sum, count, avg, min, max]

/-- The aggregate function with a name. -/
def AggregateFunction.ofName? (name : String) : Option AggregateFunction :=
  all.find? fun f => f.name == name

/-- The name of a record kind. -/
def RecordKind.name : RecordKind → String
  | change => "InstanceChange"
  | deferredExecution => "DeferredExecution"
  | deferredGeneration => "DeferredGeneration"
  | generationRequest => "GenerationRequest"

/-- The name of a library function, where it has one. -/
def LibraryFunction.name : LibraryFunction → String
  | healthScore => "health_score"
  | burnMultiple => "burn_multiple"
  | boom => "boom"
  | asyncScore => "async_score"
  | area => "area"
  | len => "len"
  | _ => "<lambda>"

/-- How a definition shows itself. -/
def definitionText (type : String) (id : Option String) (version : Int) : String :=
  match id with
  | some id =>
    if id.isEmpty then "Definition(" ++ Text.quoted type ++ ", version=" ++ toString version ++ ")"
    else "Definition(" ++ Text.quoted type ++ ", id=" ++ Text.quoted id ++ ", version=" ++
      toString version ++ ")"
  | none => "Definition(" ++ Text.quoted type ++ ", version=" ++ toString version ++ ")"

namespace Value

/-- How a function shows itself. -/
def functionText : Callable → String
  | .library .len => "<built-in function len>"
  | .library f => "<function " ++ f.name ++ ">"
  | _ => "<function <lambda>>"

/-- The constructor form of a calendar day. -/
def dateText (d : Date) : String :=
  let (y, m, n) := d.parts
  "datetime.date(" ++ Text.join ", " ([y, m, n].map toString) ++ ")"

/-- The constructor form of a moment; zero seconds and fractions are left out at the end. -/
def momentText (m : Moment) : String :=
  let (y, mo, d) := m.date.parts
  let base := [y, mo, d, m.hourOfDay, m.minuteOfHour]
  let parts :=
    if m.microOfSecond ≠ 0 then base ++ [m.secondOfMinute, m.microOfSecond]
    else if m.secondOfMinute ≠ 0 then base ++ [m.secondOfMinute]
    else base
  "datetime.datetime(" ++ Text.join ", " (parts.map toString) ++ ")"

/-- The items of a tuple between brackets; a single item has a comma after it. -/
def tupleText : List String → String
  | [item] => "(" ++ item ++ ",)"
  | items => "(" ++ Text.join ", " items ++ ")"

/-- A path between brackets. -/
def pathText (path : List String) : String := tupleText (path.map Text.quoted)

/-- The attributes of an aggregate. -/
def aggregateAttributes (f : AggregateFunction) (path : String) : List String :=
  ["function=<AggregateFunction." ++ f.name.map Char.toUpper ++ ": '" ++ f.name ++ "'>",
    "path=" ++ Text.quoted path]

/-- A quoted text, or the word for nothing. -/
def optionText : Option String → String
  | some s => Text.quoted s
  | none => "None"

mutual

/-- The quoted form of a value. -/
def quoted : Value → String
  | null => "None"
  | bool b => if b then "True" else "False"
  | int n => toString n
  | float x => x.toText Binary64.plainNames
  | text s => Text.quoted s
  | list items => "[" ++ Text.join ", " (quotedItems items) ++ "]"
  | tuple items => tupleText (quotedItems items)
  | map entries => "\x7b" ++ Text.join ", " (quotedEntries entries) ++ "\x7d"
  | date d => dateText d
  | moment m => momentText m
  | bytes bs => Text.quotedBytes bs
  | entity id type version data context =>
    "Instance(" ++ Text.join ", " (["kind='instance'", "id=" ++ Text.quoted id,
      "type=" ++ Text.quoted type, "version=" ++ toString version,
      "data=\x7b" ++ Text.join ", " (quotedEntries data) ++ "\x7d",
      "context=" ++ optionText context]) ++ ")"
  | definition type id version _ => definitionText type id version
  | function f => functionText f
  | ref path => "Ref(path=" ++ pathText path ++ ")"
  | query target predicate =>
    "Query(target=" ++ Text.quoted target ++ ", predicate=" ++ functionText predicate ++ ")"
  | aggregate f path => "Aggregate(" ++ Text.join ", " (aggregateAttributes f path) ++ ")"
  | fuzzy target => "FuzzyRef(target=" ++ Text.quoted target ++ ")"
  | record kind attributes =>
    kind.name ++ "(" ++ Text.join ", " (quotedAttributes attributes) ++ ")"
  | hooks type version =>
    "HandlerContext(" ++ Text.quoted type ++ ", version=" ++ toString version ++ ")"

/-- The quoted forms of items. -/
def quotedItems : List Value → List String
  | [] => []
  | v :: vs => quoted v :: quotedItems vs

/-- The quoted forms of entries, with a colon. -/
def quotedEntries : List (String × Value) → List String
  | [] => []
  | (k, v) :: es => (Text.quoted k ++ ": " ++ quoted v) :: quotedEntries es

/-- The quoted forms of attributes, with an equals sign. -/
def quotedAttributes : List (String × Value) → List String
  | [] => []
  | (k, v) :: es => (k ++ "=" ++ quoted v) :: quotedAttributes es

end

/-- The shown form of a value. -/
def shown : Value → String
  | text s => s
  | date d => d.toText
  | moment m => m.toText " "
  | entity id type version data context =>
    Text.join " " ["kind='instance'", "id=" ++ Text.quoted id,
      "type=" ++ Text.quoted type, "version=" ++ toString version,
      "data=\x7b" ++ Text.join ", " (quotedEntries data) ++ "\x7d",
      "context=" ++ optionText context]
  | ref path => Text.join "." path
  | query target predicate =>
    "target=" ++ Text.quoted target ++ " predicate=" ++ functionText predicate
  | aggregate f path => Text.join " " (aggregateAttributes f path)
  | fuzzy target => "target=" ++ Text.quoted target
  | record _ attributes => Text.join " " (quotedAttributes attributes)
  | v => quoted v

/-- The name of the kind of a value. -/
def kindName : Value → String
  | null => "NoneType"
  | bool _ => "bool"
  | int _ => "int"
  | float _ => "float"
  | text _ => "str"
  | list _ => "list"
  | tuple _ => "tuple"
  | map _ => "dict"
  | date _ => "date"
  | moment _ => "datetime"
  | bytes _ => "bytes"
  | entity .. => "Instance"
  | definition .. => "Definition"
  | function (.library .len) => "builtin_function_or_method"
  | function _ => "function"
  | ref _ => "Ref"
  | query _ _ => "Query"
  | aggregate _ _ => "Aggregate"
  | fuzzy _ => "FuzzyRef"
  | record kind _ => kind.name
  | hooks _ _ => "HandlerContext"

end Value

end Entity
