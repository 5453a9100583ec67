import Entity.Command.Arguments

/-!
# Invocations

What a command line asks for: one of three commands, with the configuration file to use.
-/

namespace Entity.Command

/-- What is asked for. -/
inductive Request where
  /-- Show the fields of a serialized definition. -/
  | inspect (file : String)
  /-- Generate a module from a serialized definition. -/
  | codegen (file : String) (output exportName : Option String)
  /-- Show the base of identities. -/
  | context (host override : Option String)
  deriving DecidableEq, Repr, Inhabited

/-- What is asked for, and the configuration file to use. -/
structure Invocation where
  config : Option String
  request : Request
  deriving DecidableEq, Repr, Inhabited

/-- The options before the command. -/
def commonForms : List OptionForm :=
  [{ name := "config", letter := some 'c' },
    { name := "verbose", letter := some 'v', hasValue := false }]

/-- The options of a command. -/
def formsOf : String → List OptionForm
  | "codegen" => [{ name := "output", letter := some 'o' },
      { name := "export-name", letter := some 'e' }]
  | "context" => [{ name := "host" }, { name := "override" }]
  | _ => []

/-- The request that a command with its options and words makes. -/
def request? (command : String) (g : Given) : Option Request :=
  match command, g.words with
  | "inspect", [file] => some (.inspect file)
  | "codegen", [file] => some (.codegen file (g.value? "output") (g.value? "export-name"))
  | "context", [] => some (.context (g.value? "host") (g.value? "override"))
  | _, _ => none

/-- What a command line asks for, if it has the right form. -/
def invocation? (arguments : List String) : Option Invocation := do
  let common ← given? commonForms false arguments
  match common.words with
  | [] => none
  | command :: rest =>
    let g ← given? (formsOf command) true rest
    return ⟨common.value? "config", ← request? command g⟩

/-- How the command line is used. -/
def usage : String :=
  "Usage: nouns [--config PATH] [--verbose] COMMAND\n\n" ++
  "  inspect FILE                            Show the fields of a serialized definition\n" ++
  "  codegen FILE [-o PATH] [-e NAME]        Generate a module from a serialized definition\n" ++
  "  context [--host HOST] [--override URL]  Show the resolved context URL\n"

end Entity.Command
