import Entity.Definition
import Entity.Definition.Keys
import Entity.Field.Reading

/-!
# Reading definitions

The keys of a mapping are routed: reserved keys hold identity and metadata, functions under keys of
a special form are handlers, and everything else is a field.
-/

namespace Entity

open Entity.Text

/-! ## Metadata -/

/-- The version of a definition; without one it is 1. -/
def readVersion (type : String) : Value → Except Failure Int
  | .null => .ok 1
  | .int n => if n < 1 then .error (.definition (.versionTooLow n) (some type)) else .ok n
  | v => .error (.definition (.versionNotInteger v.quoted) (some type))

/-- The parent type, and the context that comes with a parent object. -/
def readParent : Value → Option String × Option String
  | .null => (none, none)
  | .text s => (some s, none)
  | .definition type _ _ context => (some type, context)
  | .entity _ type _ _ context => (some type, context)
  | v => (some v.shown, none)

/-- A value where a text or nothing is expected; a falsy value is nothing. -/
def readContext (v : Value) (inherited : Option String) : Except Failure (Option String) :=
  if v.isFalsy then .ok inherited else requireText? v

/-- The parameter templates of an enrichment. -/
def readParams : Entries String Value → Except Failure (Entries String String)
  | [] => .ok []
  | (k, v) :: es => do
    match ← requireText? v with
    | some s => return (k, s) :: (← readParams es)
    | none => .error invalidModel

/-- An enrichment from a mapping. -/
def Enrichment.ofEntries (entries : Entries String Value) : Except Failure Enrichment := do
  let part (key : String) := requireText? (Value.lookup entries key)
  let params ← match Entries.get? "params" entries with
    | none => .ok []
    | some (.map params) => readParams params
    | some _ => .error invalidModel
  return {
    params
    source := ← part "source"
    resource := ← part "resource"
    cache := ← part "cache"
    auth := ← part "auth"
    keyWord := ← part "prefix" }

/-- An enrichment from an entry: a text with a scheme is a source, another text a resource. -/
def Enrichment.read (type : String) : Value → Except Failure Enrichment
  | .text s =>
    if contains "://".toList s.toList then .ok { source := some s }
    else .ok { resource := some s }
  | .map entries => match Enrichment.ofEntries entries with
    | .ok e => .ok e
    | .error _ => .error (.definition .invalidEnrichment (some type))
  | v => .error (.definition (.unsupportedEnrichment v.quoted) (some type))

/-- The enrichments of a definition: one entry or a list of entries. -/
def readEnrichments (type : String) (v : Value) : Except Failure (List Enrichment) :=
  match v with
  | .null => .ok []
  | _ => ((v.items?).getD [v]).mapM (Enrichment.read type)

/-! ## Routing -/

/-- The parts of a definition that keys are routed to. -/
structure Routed where
  fields : Entries String Field := []
  events : Entries String Callable := []
  schedules : Entries String Callable := []
  crons : Entries String Callable := []
  migrations : Entries Nat Callable := []
  deriving Inhabited

/-- The version that the digits of a migration key denote. -/
def migrationTarget (digits : List Char) : Except Failure Nat :=
  match Numeral.int? digits with
  | some n => .ok n.toNat
  | none => .error (.fault .badValue "Exceeds the limit for integer string conversion")

/-- Route a field. -/
def Routed.addField (r : Routed) (key : String) (v : Value) : Outcome Routed := do
  return { r with fields := Entries.put key (← Field.read key v) r.fields }

/-- Route one entry. -/
def Routed.add (type : String) (version : Int) (r : Routed) (key : String) (v : Value) :
    Outcome Routed :=
  if isReserved key then return r
  else match v with
    | .function f => match KeyForm.ofKey key with
      | .migration digits => do
        let target ← migrationTarget digits
        if Entries.has target r.migrations then
          Outcome.fail (.migrationTwice target version type)
        else return { r with migrations := Entries.put target f r.migrations }
      | .event => return { r with events := Entries.put key f r.events }
      | .schedule => return { r with schedules := Entries.put key f r.schedules }
      | .cron => return { r with crons := Entries.put key f r.crons }
      | .field => r.addField key v
    | _ => r.addField key v

/-- Route all entries, in order. -/
def Routed.addAll (type : String) (version : Int) (r : Routed) :
    Entries String Value → Outcome Routed
  | [] => return r
  | (key, v) :: es => do (← r.add type version key v).addAll type version es

/-- The relationships of the fields that have one. -/
def cascadesOf (fields : Entries String Field) : Entries String Cascade :=
  fields.filterMap fun (name, f) => f.cascade.map fun c => (name, c)

/-- Numbers in ascending order. -/
def ascending (ns : List Nat) : List Nat := ns.mergeSort (· ≤ ·)

/-- The warnings for migrations beyond the version of the definition. -/
def aheadWarnings (type : String) (version : Int) (targets : List Nat) : List Warning :=
  let ahead := (ascending targets).filter fun t : Nat => decide (version < (t : Int))
  ahead.map fun t => .migrationAhead type t version

/-! ## Definitions -/

/-- Read a definition from a mapping. -/
def Definition.read (raw : Entries String Value) : Outcome Definition := do
  let type ← match Entries.get? "$type" raw with
    | some (.text s) =>
      if s.isEmpty then Outcome.fail (.definition .missingType none) else pure s
    | _ => Outcome.fail (.definition .missingType none)
  let version ← readVersion type (Value.lookup raw "$version")
  let (parent, inherited) := readParent (Value.lookup raw "$extends")
  let routed ← Routed.addAll type version {} raw
  Outcome.warnAll (aheadWarnings type version (Entries.keys routed.migrations))
  let enrichments ← readEnrichments type (Value.lookup raw "$enrich")
  let context ← readContext (Value.lookup raw "$context") inherited
  let id := match Value.lookup raw "$id" with
    | .null => none
    | v => some v.shown
  return {
    raw, type, version, parent, enrichments, context, id
    seed := Value.lookup raw "$seed"
    fields := routed.fields
    cascades := cascadesOf routed.fields
    events := routed.events
    schedules := routed.schedules
    crons := routed.crons
    migrations := routed.migrations }

end Entity
