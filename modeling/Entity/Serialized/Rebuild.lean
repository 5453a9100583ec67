import Entity.Json.Reader
import Entity.Json.Writer
import Entity.Serialized

/-!
# Rebuilding definitions

A definition is rebuilt from its serialized form: every field entry becomes a raw value with an
explicit marker for its source, and the raw mapping is read.  Code comes back as text, and handlers
do not come back.
-/

namespace Entity

open Entity.Text

/-! ## Faults of entries -/

/-- The fault of a value that has no attributes to look at. -/
def noAttributes (v : Value) : Failure :=
  .fault .missingAttribute ("'" ++ v.kindName ++ "' object has no attribute 'get'")

/-- The fault of a value of a wrong kind. -/
def wrongKind (v : Value) : Failure := .fault .badType ("unsupported " ++ v.kindName)

/-- The key and value that an item of a list of pairs stands for. -/
def pairOf (v : Value) : Except Failure (String × Value) :=
  let parts : Option (List Value) := match v with
    | .list items => some items
    | .tuple items => some items
    | .map entries => some (entries.map fun e => .text e.1)
    | .text s => some (s.toList.map fun c => .text (String.ofList [c]))
    | _ => none
  match parts with
  | none => .error (wrongKind v)
  | some [.text k, v] => .ok (k, v)
  | some [.list _, _] => .error (wrongKind v)
  | some [.map _, _] => .error (wrongKind v)
  | some [k, v] => .ok (k.shown, v)
  | some _ => .error (.fault .badValue "dictionary update sequence element has a wrong length")

/-- The options of an entry: a mapping, or a list of pairs. -/
def optionEntries (v : Value) : Except Failure (Entries String Value) :=
  if v.isFalsy then .ok []
  else match v with
    | .map entries => .ok entries
    | .list items => (items.mapM pairOf).map Entries.ofList
    | .tuple items => (items.mapM pairOf).map Entries.ofList
    | .text s => (s.toList.mapM fun c => pairOf (.text (String.ofList [c]))).map Entries.ofList
    | v => .error (wrongKind v)

/-- The texts that an enumeration entry lists. -/
def enumTexts (v : Value) : Except Failure (List String) :=
  let texts (items : List Value) : Except Failure (List String) :=
    items.mapM fun
      | .text s => .ok s
      | v => .error (wrongKind v)
  match v with
  | .list items => texts items
  | .tuple items => texts items
  | .map entries => .ok (entries.map Prod.fst)
  | .text s => .ok (s.toList.map fun c => String.ofList [c])
  | v => .error (wrongKind v)

/-! ## Fields -/

/-- The value can be compared with the elements of a set. -/
def isHashable : Value → Bool
  | .list _ => false
  | .map _ => false
  | _ => true

/-- What an entry that is no link, list or object becomes, before its options. -/
def plainRaw (source type value : Value) (entry : Entries String Value) :
    Except Failure (Entries String Value) :=
  let get (key : String) := Value.lookup entry key
  match source with
  | .text "generate" =>
    let schema := if (get "schema").isNull then [] else [("schema", get "schema")]
    let model := if (get "model").isFalsy then [] else [("model", get "model")]
    .ok ([("$generate", value), ("type", type)] ++ schema ++ model)
  | .text "compute" =>
    .ok [("$compute", Value.firstTruthy (get "code") [value]), ("type", type)]
  | .text name =>
    if name = "input" ∧ (get "enum").isTruthy then do
      return [("$input", .text (enumText (← enumTexts (get "enum")))), ("type", type)]
    else if (Source.ofName? name).isSome then .ok [("$" ++ name, value), ("type", type)]
    else .ok [("$input", .text value.shown)]
  | _ =>
    if isHashable source then .ok [("$input", .text value.shown)] else .error (wrongKind source)

/-- The value of a key, or a default if the key is absent. -/
def entryOr (entry : Entries String Value) (key : String) (default : Value) : Value :=
  (Entries.get? key entry).getD default

/-- The entry is of an array with an element, which is not a link. -/
def isElementEntry (entry : Entries String Value) : Bool :=
  (entryOr entry "type" (.text "string")).text? == some "array" && Entries.has "item" entry

/-- The entry is of a link. -/
def isLinkEntry (entry : Entries String Value) : Bool :=
  (entryOr entry "source" (.text "input")).text? == some "link"

/-- The entry is of an object with nested fields. -/
def isObjectEntry (entry : Entries String Value) : Bool :=
  (entryOr entry "source" (.text "input")).text? == some "input" && Entries.has "fields" entry

/-- What the entry of a link becomes, before its options. -/
def linkRaw (value : Value) (entry : Entries String Value) : Entries String Value :=
  let get (key : String) := Value.lookup entry key
  let link := if (get "array").isTruthy then .list [value] else value
  [("$link", link)] ++ (if (get "code").isTruthy then [("where", get "code")] else [])

/-- What an entry that is neither a list nor an object becomes. -/
def markedRaw (entry : Entries String Value) (options : Entries String Value) :
    Except Failure Value := do
  let value := Value.lookup entry "value"
  let source := entryOr entry "source" (.text "input")
  let type := entryOr entry "type" (.text "string")
  let base ← if isLinkEntry entry then pure (linkRaw value entry)
    else plainRaw source type value entry
  return .map (Entries.merge base options)

mutual

/-- The raw value that reads back as a field entry. -/
def rawOf : Value → Except Failure Value
  | .map entry => do
    let options ← optionEntries (Value.lookup entry "options")
    if isLinkEntry entry then markedRaw entry options
    else if isElementEntry entry then return .list [← rawOfKey "item" entry]
    else if isObjectEntry entry then return .map (← rawFieldsOfKey "fields" entry)
    else markedRaw entry options
  | v => .error (noAttributes v)

/-- The raw value of the field entry under a key. -/
def rawOfKey (key : String) : List (String × Value) → Except Failure Value
  | [] => .error (noAttributes .null)
  | (k, v) :: es => if k = key then rawOf v else rawOfKey key es

/-- The raw values of the field entries under a key. -/
def rawFieldsOfKey (key : String) :
    List (String × Value) → Except Failure (List (String × Value))
  | [] => .error (noAttributes .null)
  | (k, v) :: es => if k = key then rawFields v else rawFieldsOfKey key es

/-- The raw values of the field entries of a mapping. -/
def rawFields : Value → Except Failure (List (String × Value))
  | .map fields => rawOfAll fields
  | v => .error (noAttributes v)

/-- The raw values of named field entries. -/
def rawOfAll : List (String × Value) → Except Failure (List (String × Value))
  | [] => .ok []
  | (name, v) :: es => do
    let raw ← rawOf v
    return (name, raw) :: (← rawOfAll es)

end

/-! ## Definitions -/

/-- The metadata keys that are carried over. -/
def metadataKeys : List String :=
  ["$type", "$version", "$id", "$context", "$extends", "$seed", "$enrich"]

/-- The metadata of a serialized definition. -/
def metadataOf (data : Entries String Value) : Entries String Value :=
  metadataKeys.filterMap fun key =>
    match Entries.get? key data with
    | none => none
    | some .null => none
    | some v => some (key, v)

/-- The entries of the value that a definition is rebuilt from. -/
def documentEntries (v : Value) : Except Failure (Entries String Value) :=
  let named (items : List Value) : Bool :=
    items.any fun v => (v.text?.map metadataKeys.contains).getD false
  match v with
  | .map entries => .ok entries
  | .list items => .error (if named items then wrongKind v else noAttributes v)
  | .tuple items => .error (if named items then wrongKind v else noAttributes v)
  | .text s =>
    .error (if metadataKeys.any fun key => contains key.toList s.toList then wrongKind v
      else noAttributes v)
  | v => .error (wrongKind v)

/-- The raw mapping of a serialized definition. -/
def rebuiltRaw (v : Value) : Except Failure (Entries String Value) := do
  let data ← documentEntries v
  let fields := Value.lookup data "fields"
  let raws ← if fields.isFalsy then pure [] else rawFields fields
  return Entries.merge (metadataOf data) raws

/-- Rebuild a definition from its serialized form. -/
def Definition.rebuild (v : Value) : Outcome Definition := do
  Definition.read (← rebuiltRaw v)

/-- Rebuild a definition from the JSON text of its serialized form. -/
def Definition.rebuildText (text : String) : Outcome Definition := do
  Definition.rebuild (← Json.ofText text)

/-- The JSON text of the serialized form. -/
def Definition.stringify (d : Definition) (indent : Option Nat) : String :=
  Json.toText indent (.map d.serialize)

end Entity
