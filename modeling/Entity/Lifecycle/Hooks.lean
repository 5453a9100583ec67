import Entity.Field.Coercion
import Entity.Lifecycle.Instances
import Entity.Template

/-!
# Hooks

Hooks fill fields of an instance with what services answer: a generator, a grounder that matches
values, and sources of data.  A hook writes at most once, after all services have answered.
-/

namespace Entity

/-! ## Requests -/

/-- The request for the value of a generative relationship. -/
def generationRequest (field : String) (c : Cascade) (i : Instance) : Value :=
  let template := c.prompt.getD ""
  .record .generationRequest [("name", .text field),
    ("prompt", .text (Template.renderAll template i.data)), ("template", .text template),
    ("values", .map i.data), ("output_schema", .null), ("model", .null),
    ("target_type", .text c.target), ("is_array", .bool c.isArray)]

/-- The prompt of a relationship, rendered with the data of an instance; an empty prompt is none. -/
def Cascade.promptFor? (c : Cascade) (i : Instance) : Option String :=
  (Text.nonEmpty? c.prompt).map fun prompt => Template.renderAll prompt i.data

/-! ## Fetched data -/

/-- The key under which the data of an enrichment is kept. -/
def Enrichment.payloadKey (e : Enrichment) : String :=
  Text.toLower ((Text.nonEmpty? e.keyWord).getD "resource")

/-- A key and a value from an item of a list. -/
def fetchedEntry (v : Value) : Except Failure (String × Value) :=
  match v with
  | .list [.text k, v] | .tuple [.text k, v] => .ok (k, v)
  | .text s => match s.toList with
    | [a, b] => .ok (String.singleton a, .text (String.singleton b))
    | _ => .error (.fault .badValue "dictionary update sequence element has the wrong length")
  | .list [k, v] | .tuple [k, v] =>
    if k.isKey then .ok (k.shown, v) else .error (Value.noKey k)
  | .list _ | .tuple _ | .map _ | .bytes _ =>
    .error (.fault .badValue "dictionary update sequence element has the wrong length")
  | _ => .error (Value.badType "cannot convert dictionary update sequence element to a sequence")

/-- The entries of fetched data; data that counts as false has none. -/
def fetchedEntries (v : Value) : Except Failure (Entries String Value) :=
  if v.isFalsy then .ok []
  else match v with
    | .map es => .ok es
    | .list items | .tuple items => items.mapM fetchedEntry
    | .text s => (s.toList.map fun c => Value.text (String.singleton c)).mapM fetchedEntry
    | v => .error (Value.badType ("'" ++ v.kindName ++ "' object is not iterable"))

/-- Fetched data by key. -/
abbrev Payloads := Entries String (Entries String Value)

/-- Add data under a key; newer values win. -/
def Payloads.add (ps : Payloads) (key : String) (es : Entries String Value) : Payloads :=
  Entries.put key (Entries.merge ((Entries.get? key ps).getD []) es) ps

/-- The value at the end of a path of keys. -/
def follow? : List String → Value → Option Value
  | [], v => some v
  | key :: path, .map es => match Entries.get? key es with
    | some v => follow? path v
    | none => none
  | _ :: _, _ => none

/-- The value of a synchronised field: a key in any letter case, and a path of at least one step. -/
def syncedValue? (path : String) (ps : Payloads) : Option Value :=
  match Text.pieces '.' path with
  | key :: step :: steps =>
    (Entries.get? (Text.toLower key) ps).bind fun es => follow? (step :: steps) (.map es)
  | _ => none

/-- The type of the values that a synchronised field takes. -/
def Field.syncType (f : Field) : Primitive := (f.item.map Field.type).getD f.type

/-- The fields that fetched data fills, with their values. -/
def Definition.synced (d : Definition) (ps : Payloads) : Entries String Value :=
  (d.fieldsBySource .sync).filterMap fun (name, f) =>
    (syncedValue? (f.syncPath.getD "") ps).map fun v => (name, f.syncType.coerce v)

namespace Run

/-! ## Services -/

/-- A service is not there. -/
def missing {α : Type} (role : Role) : Run α := do
  throw (.missingCollaborator role (← definition).type)

/-- Ask the generator. -/
def generate (request : Value) : Run Value := do
  let w ← get
  match w.services.generate with
  | some answer =>
    note (.generated request)
    modify fun w => { w with requests := w.requests + 1 }
    ofResult (answer w.requests request)
  | none => missing .generator

/-- Ask for the match of a value among the instances of a type. -/
def ground (v : Value) (target : String) : Run Value := do
  match (← get).services.ground with
  | some answer =>
    note (.grounded v target)
    ofResult (answer v target)
  | none => missing .grounder

/-- Ask every source of data in turn and collect what they answer. -/
def fetchAll (answer : Enrichment → Entries String String → Except Failure Value) (i : Instance)
    (ps : Payloads) : List Enrichment → Run Payloads
  | [] => return ps
  | e :: es => do
    let params := Entries.mapValues (Template.renderAll · i.data) e.params
    note (.fetched e.endpoint params)
    let data ← ofResult (answer e params)
    fetchAll answer i (ps.add e.payloadKey (← ofResult (fetchedEntries data))) es

/-! ## Hooks -/

/-- The instance that a hook is given, by itself or by its identity. -/
def resolveInstance (v : Value) : Run Instance := do
  match v.instance? with
  | some i => return i
  | none => match ← getInstance v with
    | some i => return i
    | none => throw (.notFound .entity v.shown (some (← definition).type))

/-- There is no relationship under a field. -/
def noCascade {α : Type} (field : String) : Run α := do
  throw (.notFound .cascade field (some (← definition).type))

/-- The text that an instance is matched by, or the value of the field. -/
def cascadeSubject (c : Cascade) (i : Instance) (field : String) : Value :=
  match c.promptFor? i with
  | some prompt => .text prompt
  | none => i.value field

/-- What the service for a relationship answers; nothing for a pure link, which needs none. -/
def cascadeAnswer (i : Instance) (field : String) : Run (Option Value) := do
  let d ← definition
  match Entries.get? field d.cascades with
  | some c =>
    if c.operator.isFuzzy then return some (← ground (cascadeSubject c i field) c.target)
    else if c.isGenerative then return some (← generate (generationRequest field c i))
    else return none
  | none => match Entries.get? field d.fields with
    | some f =>
      if f.source == .fuzzy then return some (← ground (i.value field) (f.fuzzyTarget.getD ""))
      else noCascade field
    | none => noCascade field

/-- Resolve a relationship and write the answer into the field. -/
def cascade (invoke : Invoke) (subject : Value) (field : String) : Run Value := do
  let i ← resolveInstance subject
  match ← cascadeAnswer i field with
  | none => return i.value field
  | some .null => return .null
  | some v =>
    let _ ← put invoke (.text i.id) (.map (Entries.put field v i.data))
    return v

/-- The value that is matched: the field's, or else the rendered prompt, or else the slug. -/
def searchSubject (i : Instance) (field : String) (prompt : Option String) : Value :=
  match i.value field, prompt with
  | .null, some prompt => .text prompt
  | .null, none => .text i.slug
  | v, _ => v

/-- Match the value of a field against its type without storing the answer. -/
def search (subject : Value) (field : String) : Run Value := do
  let i ← resolveInstance subject
  let d ← definition
  match Entries.get? field d.cascades with
  | some c => ground (searchSubject i field (c.promptFor? i)) c.target
  | none =>
    match (Entries.get? field d.fields).bind fun f => Text.nonEmpty? f.fuzzyTarget with
    | some target => ground (searchSubject i field none) target
    | none => noCascade field

/-- Fetch the data of every source and write the fields that it fills. -/
def enrich (invoke : Invoke) (subject : Value) : Run (Entries String Value) := do
  let i ← resolveInstance subject
  let d ← definition
  if d.enrichments.isEmpty then return []
  else match (← get).services.fetch with
    | none => missing .enricher
    | some answer =>
      let updates := d.synced (← fetchAll answer i [] d.enrichments)
      if !updates.isEmpty then
        let _ ← put invoke (.text i.id) (.map (Entries.merge i.data updates))
      return updates

end Run

end Entity
