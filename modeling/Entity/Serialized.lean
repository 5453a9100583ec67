import Entity.Definition.Reading
import Entity.Instance

/-!
# Serialized definitions

A definition as a value that JSON has a form for: its metadata, an entry for every field, and the
names of its handlers.
-/

namespace Entity

/-! ## Enrichments -/

/-- The attributes of an enrichment that are not left at their defaults. -/
def Enrichment.toValue (e : Enrichment) : Value :=
  let part (key : String) (s : Option String) : Entries String Value :=
    (s.map fun s => [(key, Value.text s)]).getD []
  .map (part "source" e.source ++ part "resource" e.resource ++
    (if e.params.isEmpty then [] else [("params", .map (Entries.mapValues Value.text e.params))]) ++
    part "cache" e.cache ++ part "auth" e.auth ++ part "prefix" e.keyWord)

/-! ## Fields -/

/-- An entry, if there is a text that is not empty. -/
def textEntry (key : String) (s : Option String) : Entries String Value :=
  match Text.nonEmpty? s with
  | some s => [(key, .text s)]
  | none => []

/-- The entry of a filter. -/
def Filter.toValue (f : Filter) : Value :=
  .map [("field", .text f.field), ("operator", .text f.comparator.token),
    ("value", f.value.toValue)]

/-- The code text of a computation. -/
def Computation.codeValue (c : Computation) : Value := Value.ofText? c.text?

/-- The entries of a cascade. -/
def Cascade.toEntries (c : Cascade) : Entries String Value :=
  [("operator", .text c.operator.token), ("target", .text c.target),
    ("generative", .bool c.isGenerative), ("array", .bool c.isArray)] ++
  textEntry "predicate" c.predicate ++ textEntry "route" c.route ++
  (if c.filters.isEmpty then [] else [("filters", .list (c.filters.map Filter.toValue))]) ++
  (if c.rejected.isEmpty then [] else [("rejected_filters", Value.texts c.rejected)]) ++
  (match c.selector with
    | some s => [("code", s.codeValue)]
    | none => [])

/-- The text that a field reads back from. -/
def Field.literal (f : Field) : String :=
  match f.cascade with
  | some c => c.toGrammar
  | none => match f.source, f.generation, Text.nonEmpty? f.syncPath, f.aggregate,
      Text.nonEmpty? f.fuzzyTarget with
    | .generate, some g, _, _, _ => g.prompt
    | .sync, _, some path, _, _ => "$" ++ path
    | .aggregate, _, _, some a, _ => a.toText
    | .fuzzy, _, _, _, some target => target
    | _, _, _, _, _ => f.description

/-- The entries of a generation. -/
def Generation.toEntries (g : Generation) : Entries String Value :=
  [("variables", Value.texts g.placeholders)] ++
  (match g.schema with
    | some schema => [("schema", .map schema)]
    | none => []) ++
  textEntry "model" g.model

/-- The entries of a field before its nested fields. -/
def Field.headEntries (f : Field) : Entries String Value :=
  let base : Entries String Value :=
    [("source", .text f.source.name), ("type", .text f.type.name), ("value", .text f.literal)]
  let enum := match f.enumValues with
    | some (v :: vs) => [("enum", Value.texts (v :: vs))]
    | _ => []
  let generation := (f.generation.map Generation.toEntries).getD []
  let code := match f.compute with
    | some c => [("code", c.codeValue)]
    | none => []
  let cascade := (f.cascade.map Cascade.toEntries).getD []
  Entries.merge (base ++ enum ++ generation ++ code) cascade

/-- The entries of a field after its element. -/
def Field.tailEntries (f : Field) : Entries String Value :=
  (if f.options.isEmpty then [] else [("options", Value.map f.options)]) ++
  (if f.issues.isEmpty then [] else [("issues", Value.texts f.issues)])

mutual

/-- The serialized form of a field. -/
def Field.serialize : Field → Value
  | f@⟨_, _, _, _, _, nested, item, _, _, _, _, _, _, _, _⟩ =>
    .map (f.headEntries ++ Field.serializeNested nested ++ Field.serializeItem item ++
      f.tailEntries)

/-- The entry of nested fields. -/
def Field.serializeNested : Option (List (String × Field)) → Entries String Value
  | none => []
  | some fields => [("fields", .map (Field.serializeAll fields))]

/-- The entry of an element. -/
def Field.serializeItem : Option Field → Entries String Value
  | none => []
  | some f => [("item", Field.serialize f)]

/-- The serialized forms of named fields. -/
def Field.serializeAll : List (String × Field) → List (String × Value)
  | [] => []
  | (name, f) :: fs => (name, Field.serialize f) :: Field.serializeAll fs

end

/-! ## Definitions -/

/-- Texts in the order of their code points. -/
def sortedTexts (ss : List String) : List String := ss.mergeSort fun a b => decide (a ≤ b)

/-- The names of the handlers. -/
def Definition.handlersValue (d : Definition) : Value :=
  .map [("events", Value.texts (sortedTexts (Entries.keys d.events))),
    ("schedules", Value.texts (sortedTexts (Entries.keys d.schedules))),
    ("crons", Value.texts (sortedTexts (Entries.keys d.crons))),
    ("migrations", .list ((ascending (Entries.keys d.migrations)).map fun n : Nat => Value.int n))]

/-- The serialized form of a definition. -/
def Definition.serialize (d : Definition) : Entries String Value :=
  [("$type", .text d.type), ("$version", .int d.version)] ++
  textEntry "$id" d.id ++ textEntry "$context" d.context ++ textEntry "$extends" d.parent ++
  (if d.seed.isNull then [] else [("$seed", d.seed)]) ++
  (if d.enrichments.isEmpty then []
    else [("$enrich", .list (d.enrichments.map Enrichment.toValue))]) ++
  [("fields", .map (Field.serializeAll d.fields)), ("handlers", d.handlersValue)]

/-- The serialized form of an instance. -/
def Instance.serialize (i : Instance) : Entries String Value :=
  [("$id", .text i.id), ("$type", .text i.type), ("$version", .int i.version)] ++
  textEntry "$context" i.context ++ [("values", .map i.data)]

end Entity
