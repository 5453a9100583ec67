import Entity.Callable.Library
import Entity.Cascade.Reading
import Entity.Field.Annotation
import Entity.Template
import Entity.Text.Case

/-!
# Reading fields

A raw value is classified into a field.  In order of precedence: a mapping with an explicit marker,
a reference value, a function, a mapping with a prompt, a text, a list of one element, any other
mapping, a number or truth value; everything else is kept as a description with an issue.  A text is
a cascade, a path, a prompt or an input, in this order.
-/

namespace Entity

open Entity.Text

/-! ## Issues -/

/-- Note an issue on a field, with a warning. -/
def Field.degraded (f : Field) (issue : String) : Outcome Field := do
  Outcome.warn (.fieldIssue f.name issue)
  return { f with issues := f.issues ++ [issue] }

/-- Note issues in order. -/
def Field.degradedBy (f : Field) : List String → Outcome Field
  | [] => return f
  | issue :: issues => do (← f.degraded issue).degradedBy issues

/-- The fault of a value that a model does not accept. -/
def invalidModel : Failure := .fault .invalidModel "validation error"

/-- A text or nothing, where nothing else is accepted; bytes stand for the text that they encode. -/
def requireText? : Value → Except Failure (Option String)
  | .null => .ok none
  | .text s => .ok (some s)
  | .bytes bs => match String.fromUTF8? ⟨bs.toArray⟩ with
    | some s => .ok (some s)
    | none => .error invalidModel
  | _ => .error invalidModel

/-! ## Texts -/

/-- A field given by the user: a type suffix, alternatives, or plain text. -/
def Field.ofInputText (name text : String) : Field :=
  match splitTypeSuffix text with
  | (description, some type) => { name, description, source := .input, type }
  | (_, none) => match enumValues? text with
    | some values => {
        name, source := .input, type := .enum
        description := trimmed text
        enumValues := some values }
    | none => { name, description := text, source := .input }

/-- The words of a dotted path. -/
def isDottedPath (cs : List Char) : Bool :=
  (splitAt '.' cs).all fun piece => !piece.isEmpty && piece.all isWord

/-- The dotted path after a `$`; one line end may follow it. -/
def syncPath? (text : String) : Option String :=
  match text.toList with
  | '$' :: cs =>
    if isDottedPath cs then some (String.ofList cs)
    else if cs.getLast? = some '\n' ∧ isDottedPath cs.dropLast then
      some (String.ofList cs.dropLast)
    else none
  | _ => none

/-- The prompt of a text with placeholders. -/
def Generation.ofPrompt (prompt : String) : Generation :=
  { prompt, placeholders := Template.names prompt }

/-- Classify a text: a cascade, a path, a prompt or an input. -/
def Field.ofText (name text : String) : Outcome Field := do
  let (description, cascade) ← Cascade.read text
  match cascade with
  | some c => return { name, description, source := .link, cascade := some c }
  | none =>
    let (stripped, type) := splitTypeSuffix text
    match syncPath? stripped with
    | some path => return {
        name, description := stripped, source := .sync
        type := type.getD .string, syncPath := some path }
    | none =>
      if Template.hasPlaceholder stripped then return {
        name, description := stripped, source := .generate
        type := type.getD .string, generation := some (.ofPrompt stripped) }
      else return .ofInputText name text

/-! ## Structured generation and prompts -/

/-- The placeholders of the texts of entries, in order of first appearance. -/
def schemaNames (schema : Entries String Value) : List String :=
  Template.firstAppearances ((Template.textsOfEntries schema).flatMap Template.names)

/-- The generation of a mapping with placeholders. -/
def Generation.ofSchema (name : String) (schema : Entries String Value) (model : Option String) :
    Generation :=
  let names := schemaNames schema
  let shown := join ", " (names.map fun v => String.ofList (Template.placeholder v))
  { prompt := "Generate " ++ name ++ " for context with: " ++ shown
    schema := some schema, model, placeholders := names }

/-- A mapping with one prompt text, under `mdx` or `prompt`, and nothing but a schema and a model
beside it. -/
def promptOf? (entries : Entries String Value) : Option String :=
  let allowed := entries.all fun e => ["mdx", "prompt", "schema", "model"].contains e.1
  match Entries.get? "mdx" entries, Entries.get? "prompt" entries with
  | some (.text s), none => if allowed then some s else none
  | none, some (.text s) => if allowed then some s else none
  | _, _ => none

/-- The field of a mapping with a prompt. -/
def Field.ofPrompt (name prompt : String) (entries : Entries String Value) :
    Except Failure Field := do
  let model ← requireText? (Value.lookup entries "model")
  let schema := (Value.lookup entries "schema").map?
  return {
    name, description := prompt, source := .generate
    type := if schema.isSome then .object else .string
    generation := some { Generation.ofPrompt prompt with schema, model } }

/-! ## References -/

/-- Sources outside the program that references may name. -/
def externalSources : List String :=
  ["Stripe", "Github", "Google", "Vercel", "NPM", "DNS", "WHOIS", "Slack", "Discord", "Linear",
    "Notion", "Airtable"]

/-- The first segment of a reference. -/
def refRoot (path : List String) : String := path.headD ""

/-- The reference names an external source. -/
def refIsExternal (path : List String) : Bool := externalSources.contains (refRoot path)

/-- The text begins with an upper-case letter. -/
def beginsUpper (s : String) : Bool :=
  match s.toList with
  | c :: _ => isUpperCase c
  | [] => false

/-- The reference is one capitalised segment that names a type. -/
def refIsType (path : List String) : Bool :=
  path.length == 1 && beginsUpper (refRoot path) && !refIsExternal path

/-- The segments of reference parts, cut at points. -/
def refPath (parts : List String) : List String :=
  (parts.flatMap (pieces '.')).filter (!·.isEmpty)

/-- Names of operations on references, which are no values. -/
def refOperations : List String :=
  ["construct", "copy", "dict", "from_orm", "json", "model_computed_fields", "model_config",
    "model_construct", "model_copy", "model_dump", "model_dump_json", "model_extra",
    "model_fields", "model_fields_set", "model_json_schema", "model_parametrized_name",
    "model_post_init", "model_rebuild", "model_validate", "model_validate_json",
    "model_validate_strings", "parse_file", "parse_obj", "parse_raw", "schema", "schema_json",
    "update_forward_refs", "validate", "where"]

/-- The name is no segment of a reference. -/
def isRefused (name : String) : Bool :=
  name.toList.head? == some '_' || refOperations.contains name

/-- A member of a value.  A reference has its first segment, its path and what it names as members,
and any other name is one more segment, if it may be; what is no reference has no members. -/
def refMember (v : Value) (name : String) : Except Failure Value :=
  match v with
  | .ref path =>
    if isRefused name then .error (.fault .missingAttribute name)
    else if name = "root" then .ok (.text (refRoot path))
    else if name = "path" then .ok (.tuple (path.map Value.text))
    else if name = "is_external" then .ok (.bool (refIsExternal path))
    else if name = "is_type_reference" then .ok (.bool (refIsType path))
    else .ok (.ref (path ++ [name]))
  | _ => .error (.fault .missingAttribute name)

/-- The computation of a function. -/
def Computation.ofFunction (f : Callable) : Computation := .function f f.source

/-- The field of a reference. -/
def Field.ofRef (name : String) (path : List String) : Outcome Field :=
  if path.isEmpty then
    Field.degraded { name, description := name, source := .input } "empty reference"
  else if refIsType path then return {
    name, description := refRoot path, source := .link
    cascade := some { operator := .outgoing, target := refRoot path } }
  else
    let text := join "." path
    return { name, description := text, source := .sync, syncPath := some text }

/-- The field of the instances of a type that a function selects. -/
def Field.ofQuery (name target : String) (predicate : Callable) : Field :=
  { name, description := target, source := .link, type := .array
    cascade := some {
      operator := .incoming, target, isArray := true
      selector := some (.ofFunction predicate) } }

/-- The field of an aggregate. -/
def Field.ofAggregate (name : String) (a : Aggregate) : Field :=
  { name, description := a.toText, source := .aggregate, type := .number, aggregate := some a }

/-! ## Explicit markers -/

/-- The source that a marker stands for. -/
def Source.ofMarker? (key : String) : Option Source :=
  Source.all.find? fun s => "$" ++ s.name == key

/-- The first marker of a mapping: its key, its source and its value. -/
def marker? : Entries String Value → Option (String × Source × Value)
  | [] => none
  | (key, v) :: es => match Source.ofMarker? key with
    | some s => some (key, s, v)
    | none => marker? es

/-- Keys beside a marker that have a meaning of their own. -/
def interpretedKeys : List String := ["type", "schema", "model", "description", "where"]

/-- The keys beside a marker that have no meaning of their own. -/
def optionsOf (entries : Entries String Value) : Entries String Value :=
  entries.filter fun e => (Source.ofMarker? e.1).isNone && !interpretedKeys.contains e.1

/-- The field of an `$input` marker; a cascade text makes a link that the user maintains. -/
def Field.ofInput (name : String) (body : Value) : Outcome Field :=
  match body with
  | .text text => do
    let (description, cascade) ← Cascade.read text
    match cascade with
    | some c => return { name, description, source := .input, cascade := some c }
    | none => return .ofInputText name text
  | _ => return { name, description := name, source := .input }

/-- The field of a generated list with the given element. -/
def Field.ofGeneratedItem (name : String) (item : Field) : Field :=
  { item with name, type := .array, item := some item }

/-- The field of a `$generate` marker whose value is neither a mapping nor a list of one element. -/
def Field.ofGeneratedText (name : String) (body schema model : Value) : Field :=
  let (prompt, type) := splitTypeSuffix body.shown
  let g := Generation.ofPrompt prompt
  { name, description := prompt, source := .generate
    type := if schema.map?.isSome then .object else type.getD .string
    generation := some { g with schema := schema.map?, model := model.text? } }

/-- The field of a `$generate` marker. -/
def Field.ofGenerate (name : String) (schema model : Value) : (body : Value) → Except Failure Field
  | .map entries => do
    let model ← requireText? model
    return {
      name, description := name, source := .generate, type := .object
      generation := some (.ofSchema name entries model) }
  | .list [element] => (Field.ofGenerate "item" schema model element).map (.ofGeneratedItem name)
  | .tuple [element] => (Field.ofGenerate "item" schema model element).map (.ofGeneratedItem name)
  | body => .ok (.ofGeneratedText name body schema model)

/-- The computation that a value is. -/
def Computation.ofValue? : Value → Option Computation
  | .function f => some (.ofFunction f)
  | .text s => some (.code s)
  | _ => none

/-- The field of a `$compute` marker. -/
def Field.ofCompute (name : String) (body : Value) : Outcome Field :=
  match Computation.ofValue? body with
  | some c =>
    let description := (body.text?).getD name
    return { name, description, source := .compute, compute := some c }
  | none =>
    Field.degraded { name, description := body.shown, source := .compute }
      "compute body must be a callable or code text"

/-- The field of a `$sync` marker. -/
def Field.ofSync (name : String) (body : Value) : Field :=
  let (text, type) := splitTypeSuffix body.shown
  let path := match text.toList with
    | '$' :: cs => String.ofList cs
    | _ => text
  { name, description := text, source := .sync, type := type.getD .string, syncPath := some path }

/-- A letter as the names of aggregate functions see it: the long s is an s, and the undotted and
the dotted capital i are an i. -/
def foldLetter (c : Char) : Char :=
  if c.toNat = 0x17f then 's' else if c.toNat = 0x131 ∨ c.toNat = 0x130 then 'i' else c.toLower

/-- A name at the start of a text, in any letter case: the text of the name, and the rest. -/
def foldedStart? (name : List Char) (cs : List Char) : Option (List Char × List Char) :=
  if name.length ≤ cs.length ∧ (cs.take name.length).map foldLetter = name then
    some (cs.take name.length, cs.drop name.length)
  else none

/-- The path between round brackets at the end of an aggregate expression. -/
def aggregatePath? (cs : List Char) : Option (List Char) :=
  match trimStart cs with
  | '(' :: cs =>
    let (path, rest) := (trimStart cs).span fun c => isWord c || c == '.'
    match trimStart rest with
    | ')' :: rest => if path.isEmpty || !rest.all isBlank then none else some path
    | _ => none
  | _ => none

/-- The name of the function, as it is written, and the path of an aggregate expression. -/
def aggregateParts? (text : String) : Option (String × String) :=
  let cs := trimStart text.toList
  AggregateFunction.all.findSome? fun f => do
    let (name, rest) ← foldedStart? f.name.toList cs
    let path ← aggregatePath? rest
    return (String.ofList name, String.ofList path)

/-- The field of an `$aggregate` marker. -/
def Field.ofAggregateText (name text : String) : Outcome Field :=
  match aggregateParts? text with
  | none =>
    Field.degraded
      { name, description := text, source := .aggregate, type := .number
        aggregate := some ⟨none, text⟩ }
      ("unreadable aggregate expression " ++ Text.quoted text)
  | some (written, path) =>
    match AggregateFunction.ofName? (toLower written) with
    | some f => return .ofAggregate name ⟨some f, path⟩
    | none => Outcome.fail (.fault .badValue (Text.quoted (toLower written) ++
        " is not a valid AggregateFunction"))

/-- The field of a list whose element is the given field; `shared` says that the description of the
element is the description of the list. -/
def Field.ofElement (name : String) (shared : Bool) (item : Field) : Field :=
  { name
    description := if shared then item.description else "Array of " ++ name
    source := item.source
    type := .array
    item := some item
    generation := item.generation
    cascade := item.cascade.map fun c => { c with isArray := true }
    syncPath := item.syncPath
    aggregate := item.aggregate
    fuzzyTarget := item.fuzzyTarget
    compute := item.compute
    issues := item.issues }

/-- The cascade text of a `$link` value: a text without an operator is an outgoing link. -/
def linkText (body : Value) : Outcome String := do
  let text := trimmed body.shown
  if ← Cascade.isCascade text then return text
  else return CascadeOperator.outgoing.token ++ text

/-- The link with a function or code that selects its instances. -/
def Field.withSelector (f : Field) (selector : Option Computation) : Field :=
  match selector with
  | some s => { f with cascade := f.cascade.map fun c => { c with selector := some s } }
  | none => f

/-- The field of a `$link` marker. -/
def Field.ofLink (name : String) (body selector : Value) : Outcome Field := do
  let repeated := body.items?.isSome
  let text ← linkText ((body.items?.bind List.head?).getD body)
  let f ← if repeated then (.ofElement name true) <$> Field.ofText "item" text
    else Field.ofText name text
  if f.cascade.isNone then
    Field.degraded { name, description := text, source := .link }
      ("unreadable link " ++ Text.quoted text)
  else return f.withSelector (Computation.ofValue? selector)

/-- The field that a marker makes of its value, without the keys beside it. -/
def Field.ofMarker (name : String) (source : Source) (body : Value)
    (entries : Entries String Value) : Outcome Field :=
  match source with
  | .input => Field.ofInput name body
  | .generate =>
    Field.ofGenerate name (Value.lookup entries "schema") (Value.lookup entries "model") body
  | .compute => Field.ofCompute name body
  | .sync => return .ofSync name body
  | .aggregate => Field.ofAggregateText name body.shown
  | .fuzzy =>
    let target := trimmed body.shown
    return { name, description := target, source := .fuzzy, fuzzyTarget := some target }
  | .link => Field.ofLink name body (Value.lookup entries "where")

/-- The issue of markers beside the one that is used. -/
def conflictIssues (key : String) (entries : Entries String Value) : List String :=
  let others := (Entries.keys entries).filter fun k => (Source.ofMarker? k).isSome && k != key
  if others.isEmpty then []
  else ["conflicting markers " ++ (Value.texts others).quoted ++ "; using " ++ key]

/-- The shape that a `type` key asks for, or the issue that there is none. -/
def Field.withType (f : Field) (entries : Entries String Value) : Field × List String :=
  match Entries.get? "type" entries with
  | none => (f, [])
  | some v => match Primitive.ofName? (toLower v.shown) with
    | some type => ({ f with type }, [])
    | none => (f, ["unknown type " ++ v.quoted])

/-- The description that a `description` key gives. -/
def Field.withDescription (f : Field) (entries : Entries String Value) : Field :=
  match Entries.get? "description" entries with
  | some (.text description) => { f with description }
  | _ => f

/-- The field of a mapping with an explicit marker. -/
def Field.ofMarked (name key : String) (source : Source) (body : Value)
    (entries : Entries String Value) : Outcome Field := do
  let f ← Field.ofMarker name source body entries
  let f := { f with options := optionsOf entries }
  let (f, typeIssues) := (f.withDescription entries).withType entries
  f.degradedBy (conflictIssues key entries ++ typeIssues)

/-! ## All values -/

/-- The description of the list is the description of its element. -/
def sharesDescription : Value → Bool
  | .text _ => true
  | .map entries => (marker? entries).isSome
  | _ => false

/-- The field of a value of a kind that fields are not written with. -/
def Field.ofUnsupported (name : String) (v : Value) : Outcome Field :=
  Field.degraded { name, description := v.shown, source := .input }
    ("unsupported value of type " ++ v.kindName)

/-- The field of a list that has not exactly one element. -/
def Field.ofWrongLength (name : String) (length : Nat) : Outcome Field :=
  Field.degraded { name, description := name, source := .input, type := .array }
    ("expected a single-element list, got " ++ toString length ++ " elements")

mutual

/-- Classify a raw value. -/
def Field.read (name : String) : Value → Outcome Field
  | .map entries => match marker? entries with
    | some (key, source, body) => Field.ofMarked name key source body entries
    | none => match promptOf? entries with
      | some prompt => Field.ofPrompt name prompt entries
      | none =>
        if Template.valueHasPlaceholder (.map entries) then return {
          name, description := name, source := .generate, type := .object
          generation := some (.ofSchema name entries none) }
        else do
          let nested ← Field.readEntries entries
          return { name, description := name, source := .input, type := .object
                   nested := some nested }
  | .ref path => Field.ofRef name path
  | .query target predicate => return .ofQuery name target predicate
  | .aggregate function path => return .ofAggregate name ⟨some function, path⟩
  | .fuzzy target =>
    return { name, description := target, source := .fuzzy, fuzzyTarget := some target }
  | .function f =>
    return { name, description := name, source := .compute, compute := some (.ofFunction f) }
  | .text text => Field.ofText name text
  | .list [element] =>
    (.ofElement name (sharesDescription element)) <$> Field.read "item" element
  | .tuple [element] =>
    (.ofElement name (sharesDescription element)) <$> Field.read "item" element
  | .list items => Field.ofWrongLength name items.length
  | .tuple items => Field.ofWrongLength name items.length
  | .bool b => return { name, description := (Value.bool b).shown, source := .input }
  | .int n => return { name, description := (Value.int n).shown, source := .input }
  | .float x => return { name, description := (Value.float x).shown, source := .input }
  | v => Field.ofUnsupported name v

/-- Classify the entries of a mapping; reserved keys are passed over. -/
def Field.readEntries : List (String × Value) → Outcome (List (String × Field))
  | [] => return []
  | (name, v) :: es =>
    if isReserved name then Field.readEntries es
    else do
      let f ← Field.read name v
      let fs ← Field.readEntries es
      return (name, f) :: fs

end

end Entity
