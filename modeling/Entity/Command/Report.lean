import Entity.Config
import Entity.Command.Invocation
import Entity.Files
import Entity.Inspection
import Entity.Module.Text
import Entity.Query.Base
import Entity.Serialized.Rebuild

/-!
# Reports

What a command line leads to: text on the two outputs, files, and an exit code.  The files and the
environment are values, and files that were written are told apart from those that were there.
-/

namespace Entity.Command

open Entity.Text

/-- What a command line leads to. -/
structure Report where
  output : String := ""
  errors : String := ""
  exitCode : Nat := 0
  /-- A failure that no command answers for. -/
  failure : Option Failure := none
  /-- The file that was written. -/
  written : Option (Path × String) := none
  deriving Inhabited

/-- What a command runs in. -/
structure Surroundings where
  files : Files
  environment : List (String × String) := []
  deriving Inhabited

/-- The file that a report added to those that were there, by its path from the present place. -/
def Report.created (r : Report) (s : Surroundings) : List (String × String) :=
  match r.written with
  | none => []
  | some (path, text) =>
    if s.files.find path = .nothing then
      (((s.files.place? path).bind s.files.relative?).map fun path => (path, text)).toList
    else []

/-! ## Ends -/

/-- A message on the second output, after which nothing is done. -/
def Report.refusal (message : String) : Report := { errors := message ++ "\n", exitCode := 1 }

/-- A failure that no command answers for. -/
def Report.ofFailure (e : Failure) : Report := { exitCode := 1, failure := some e }

/-- A line on the first output. -/
def Report.ofLine (line : String) : Report := { output := line ++ "\n" }

/-- More text before a report. -/
def Report.after (output : String) (r : Report) : Report := { r with output := output ++ r.output }

/-- Lines in order, up to the first fault. -/
def Report.ofLines : List (Except Failure (List (List Char))) → Report
  | [] => {}
  | .error e :: _ => .ofFailure e
  | .ok lines :: rest =>
    .after (String.ofList (lines.flatMap fun line => line ++ ['\n'])) (.ofLines rest)

/-! ## Definitions and configuration -/

/-- Why a definition cannot be used, for the file that it should be in. -/
def refusedDefinition (file : Path) : Failure → Report
  | .fault .badJson message => .refusal ("Invalid JSON in " ++ file.toText ++ ": " ++ message)
  | e =>
    if e.isAboutEntities then
      .refusal ("Invalid definition in " ++ file.toText ++ ": " ++ e.message)
    else .ofFailure e

/-- Line ends of every kind as line feeds. -/
def withLineFeeds (text : String) : String :=
  String.ofList ((replaceAll ['\r', '\n'] ['\n'] text.toList).map fun c =>
    if c = '\r' then '\n' else c)

/-- Go on with the definition in a file. -/
def withDefinition (s : Surroundings) (file : Path) (f : Definition → Outcome Report) :
    Outcome Report :=
  match s.files.find file with
  | .nothing => return .refusal ("File not found: " ++ file.toText)
  | .folder => return .ofFailure (.fault .isFolder file.toText)
  | .file text =>
    let d := Definition.rebuildText (withLineFeeds text)
    match d.result with
    | .error e => ⟨.ok (refusedDefinition file e), d.warnings⟩
    | .ok _ => d.andThen f

/-- The configuration file to use. -/
def configPath (config : Option String) : Path := Path.ofText (config.getD Config.fileName)

/-- What the configuration file sets; without a file all is left open. -/
def readConfig (s : Surroundings) (config : Option String) : Except Failure Config :=
  let path := configPath config
  match s.files.find path with
  | .nothing => Config.ofText none
  | _ => do Config.ofText (some (← s.files.read path))

/-! ## Commands -/

/-- Write a module, or show it where there is no place for it. -/
def delivered (files : Files) (target : Option Path) (text : String) : Report :=
  match target with
  | none => { output := text }
  | some path => match files.write path text with
    | .ok _ => { Report.ofLine ("Wrote " ++ path.toText) with written := some (path, text) }
    | .error e => .ofFailure e

/-- Generate the module of a definition. -/
def generated (s : Surroundings) (config output exportName : Option String) (d : Definition) :
    Outcome Report := do
  let config ← readConfig s config
  let text ← Module.generate d ((nonEmpty? exportName).or config.exportName)
  return delivered s.files ((output.map Path.ofText).or (config.outputPath s.files.here)) text

/-- The base of identities. -/
def baseReport (s : Surroundings) (config host override : Option String) :
    Except Failure Report := do
  let config ← readConfig s config
  let sources : BaseSources :=
    { override, host, environment := s.environment, configured := config.context }
  return .ofLine sources.resolve

/-- What an invocation leads to. -/
def perform (s : Surroundings) (i : Invocation) : Outcome Report :=
  match i.request with
  | .inspect file =>
    withDefinition s (Path.ofText file) fun d => return .ofLines d.inspection
  | .codegen file output exportName =>
    withDefinition s (Path.ofText file) (generated s i.config output exportName)
  | .context host override => liftM (baseReport s i.config host override)

/-- What a command line leads to; a failure is part of the report. -/
def run (s : Surroundings) (arguments : List String) : Report × List Warning :=
  match invocation? arguments with
  | none => ({ errors := usage, exitCode := 2 }, [])
  | some i =>
    let o := perform s i
    match o.result with
    | .ok r => (r, o.warnings)
    | .error e => (.ofFailure e, o.warnings)

/-- The files that a command line may read. -/
def readPaths (arguments : List String) : List Path :=
  match invocation? arguments with
  | none => []
  | some i =>
    let config := configPath i.config
    match i.request with
    | .inspect file => [Path.ofText file]
    | .codegen file _ _ => [Path.ofText file, config]
    | .context _ _ => [config]

end Entity.Command
