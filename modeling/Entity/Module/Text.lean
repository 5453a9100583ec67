import Entity.Json.Reader
import Entity.Module.Entry
import Entity.Module.Prelude
import Entity.Serialized.Rebuild
import Entity.Value.Layout

/-!
# The text of generated modules

A definition becomes a module that stands on its own: its metadata, a table of compute functions, a
table of link filters, and functions to use them.
-/

namespace Entity.Module

open Entity.Text

/-! ## Tables -/

/-- A row of a table. -/
def row (field : String) (e : Entry) : String := "    " ++ quoted field ++ ": " ++ e.text ++ ","

/-- The entries of the compute functions. -/
def computeEntries : Entries String FunctionField → Outcome (List (String × Entry))
  | [] => return []
  | (name, .computation c) :: fs => do
    let e ← Entry.ofCode .compute name c.text?
    return (name, e) :: (← computeEntries fs)
  | (_, .generation _) :: fs => computeEntries fs

/-- The entries of the link filters. -/
def filterEntries : Entries String Cascade → Outcome (List (String × Entry))
  | [] => return []
  | (name, c) :: cs => do
    match ← Entry.ofLink name c with
    | some e => return (name, e) :: (← filterEntries cs)
    | none => filterEntries cs

/-- A table of entries. -/
def table (name : String) (entries : List (String × Entry)) : List String :=
  (name ++ ": dict[str, Callable[..., Any]] = \x7b") ::
    (entries.map (fun (field, e) => row field e) ++ ["\x7d"])

/-- Functions with two empty lines after each. -/
def functionLines (entries : List (String × Entry)) : List String :=
  entries.flatMap fun (_, e) => e.functions.flatMap fun f => [f, "", ""]

/-! ## Modules -/

/-- The serialized form of a definition as it reads back from JSON. -/
def metadata (d : Definition) : Except Failure Value := Json.ofText (d.stringify (some 2))

/-- The lines of a module up to its metadata. -/
def headLines (d : Definition) : List String :=
  ["\"\"\"", d.type ++ " definition module.", "Generated by nouns - DO NOT EDIT.", "\"\"\"", ""] ++
    importLines ++
    ["", "TYPE = " ++ quoted d.type, "VERSION = " ++ toString d.version,
      "CONTEXT = " ++ Value.optionText d.context, ""]

/-- The lines of a module from its metadata on. -/
def bodyLines (data : Value) (computes filters : List (String × Entry)) : List String :=
  ["META: dict[str, Any] = " ++ String.ofList (data.layout ⟨0, 0⟩), "", "", lookupCode, "", ""] ++
    functionLines (computes ++ filters) ++ table "COMPUTE_FUNCTIONS" computes ++ [""] ++
    table "LINK_FILTERS" filters ++ ["", "", entryCode, "", ""]

/-- The last line of a module: what it exports. -/
def exportLine (name : String) : String :=
  exportIdentifier name ++
    " = SimpleNamespace(type=TYPE, version=VERSION, context=CONTEXT, meta=META, " ++
    "compute=compute, filter_link=filter_link)"

/-- The module of a definition; it exports the type's name unless another name is given. -/
def generate (d : Definition) (exportName : Option String) : Outcome String := do
  let computes ← computeEntries d.functions
  let filters ← filterEntries d.cascades
  let data ← metadata d
  let name := (nonEmpty? exportName).getD d.type
  return lines (headLines d ++ bodyLines data computes filters ++ [exportLine name, ""])

end Entity.Module
