import Entity.Path
import Entity.Toml.Reader

/-!
# Configuration

What a project sets for itself in its configuration file: the base of identities, and where
generated modules go and what they export.
-/

namespace Entity

/-- What a project sets for itself. -/
structure Config where
  /-- The base of identities. -/
  context : Option String := none
  /-- The name that generated modules export. -/
  exportName : Option String := none
  /-- Where generated modules are written. -/
  output : Option String := none
  deriving DecidableEq, Repr, Inhabited

namespace Config

/-- The name of the configuration file. -/
def fileName : String := "nouns.toml"

/-! ## Reading -/

/-- The table that a node is, where nothing else has entries. -/
def tableOf : Toml.Node → Except Failure Toml.Table
  | .table entries => .ok entries
  | _ => .error (.fault .missingAttribute "not a table")

/-- The text under a key, if there is one; nothing else is accepted. -/
def textOf (t : Toml.Table) (key : String) : Except Failure (Option String) :=
  match Entries.get? key t with
  | none => .ok none
  | some (.text s) => .ok (some s)
  | some _ => .error (.fault .invalidModel "not a text")

/-- What a table sets for generated modules. -/
def withCodegen (c : Config) (t : Toml.Table) : Except Failure Config :=
  match Entries.get? "codegen" t with
  | none => .ok c
  | some node => do
    let t ← tableOf node
    return { c with exportName := ← textOf t "export_name", output := ← textOf t "output" }

/-- What the section of a document sets; a section that counts as false sets nothing. -/
def ofDocument (t : Toml.Table) : Except Failure Config :=
  match Entries.get? "nouns" t with
  | none => .ok {}
  | some node => do
    if node.isFalsy then return {}
    let t ← tableOf node
    let c ← withCodegen {} t
    return { c with context := ← textOf t "context" }

/-- What a configuration file sets; without a file all is left open. -/
def ofText : Option String → Except Failure Config
  | none => .ok {}
  | some text => do ofDocument (← Toml.ofText text)

/-! ## Places -/

/-- Where generated modules are written, for a project at a place. -/
def outputPath (c : Config) (project : Path) : Option Path :=
  (Text.nonEmpty? c.output).map fun output => project.below (Path.ofText output)

end Config

end Entity
