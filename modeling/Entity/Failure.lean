import Entity.Text.Quoted

/-!
# Failures

Why an operation on definitions, instances or storage fails.  A failure is a cause; its wording is
given by one function.
-/

namespace Entity

/-- The phases of a runtime: without storage, behind its definition, running migrations, usable. -/
inductive Phase where
  | unbound | stale | migrating | bound
  deriving DecidableEq, Repr, Inhabited

/-- The name of a phase. -/
def Phase.name : Phase → String
  | unbound => "unbound"
  | stale => "stale"
  | migrating => "migrating"
  | bound => "bound"

/-- Kinds of fault that carry no more than a text. -/
inductive FaultKind where
  | invalidModel | badValue | badType | missingKey | missingAttribute | overflow | badSyntax
  | badIndentation | notEncodable | badJson | badToml | badMarkup | zeroDivision | badIndex
  | endlessRecursion
  /-- A file is expected and a folder found, or the reverse, or a file stands in a folder's way. -/
  | isFolder | notFolder | fileInTheWay
  deriving DecidableEq, Repr, Inhabited

/-- Why a definition is refused. -/
inductive DefinitionProblem where
  | missingType
  /-- The version is not an integer; it is shown quoted. -/
  | versionNotInteger (shown : String)
  | versionTooLow (version : Int)
  /-- An enrichment entry has a wrong attribute. -/
  | invalidEnrichment
  /-- An enrichment entry is neither text nor a mapping; it is shown quoted. -/
  | unsupportedEnrichment (shown : String)
  | extensionWithIdentity
  | instanceWithoutIdentity
  deriving DecidableEq, Repr, Inhabited

/-- What is looked for by name or identity. -/
inductive Sought where
  | entity | function | cascade | schedule
  deriving DecidableEq, Repr, Inhabited

/-- The services outside the program that hooks call. -/
inductive Role where
  | generator | grounder | enricher
  deriving DecidableEq, Repr, Inhabited

/-- The operations that need a usable runtime. -/
inductive Operation where
  | list | get | create | put | delete | runSchedule (name : String)
  deriving DecidableEq, Repr, Inhabited

/-- The objects whose members are looked up by name. -/
inductive Host where
  | handlerContext | queryContext
  deriving DecidableEq, Repr, Inhabited

/-- Why an operation fails. -/
inductive Failure where
  | fault (kind : FaultKind) (text : String)
  | definition (problem : DefinitionProblem) (type : Option String)
  | notFound (sought : Sought) (key : String) (type : Option String)
  /-- Two migrations have the same target. -/
  | migrationTwice (target : Nat) (current : Int) (type : String)
  /-- Storage was written under a newer version of the definition. -/
  | storedNewer (stored current : Int) (type : String)
  /-- A migration failed; `applied` is the last version that was completed. -/
  | migration (version : Nat) (applied : Int) (type : String) (cause : Failure)
  | wrongPhase (operation : Operation) (phase : Phase) (type : String)
  | missingCollaborator (role : Role) (type : String)
  /-- An instance may not be stored under the identity, which is shown quoted. -/
  | badInstanceId (shown : String)
  | incompleteMapping
  | unknownMember (host : Host) (name : String)
  deriving Repr, Inhabited

/-- The failure is about definitions, instances or runtimes, and not a fault of some value. -/
def Failure.isAboutEntities : Failure → Bool
  | fault _ _ => false
  | badInstanceId _ => false
  | incompleteMapping => false
  | unknownMember _ _ => false
  | _ => true

/-! ## Wording -/

/-- The word for what is looked for. -/
def Sought.name : Sought → String
  | entity => "Instance"
  | function => "Function"
  | cascade => "Cascade"
  | schedule => "Schedule"

/-- The word for a role. -/
def Role.name : Role → String
  | generator => "generator"
  | grounder => "grounder"
  | enricher => "enricher"

/-- The words for an operation. -/
def Operation.name : Operation → String
  | list => "list instances"
  | get => "get"
  | create => "create"
  | put => "put"
  | delete => "delete"
  | runSchedule name => "run schedule " ++ name

/-- The wording of a problem with a definition. -/
def DefinitionProblem.message : DefinitionProblem → String
  | missingType => "Definition is missing $type"
  | versionNotInteger shown => "$version must be an integer, got " ++ shown
  | versionTooLow version => "$version must be >= 1, got " ++ toString version
  | invalidEnrichment => "Invalid $enrich entry"
  | unsupportedEnrichment shown => "Unsupported $enrich entry " ++ shown
  | extensionWithIdentity => "extend() creates a type; use instantiate() for identified values"
  | instanceWithoutIdentity => "An instance requires $id"

/-- The name of a host. -/
def Host.name : Host → String
  | handlerContext => "HandlerContext"
  | queryContext => "QueryContext"

/-- A message after the name of the type that it is about. -/
def aboutType (type : Option String) (message : String) : String :=
  match type with
  | some type => if type.isEmpty then message else "[" ++ type ++ "] " ++ message
  | none => message

/-- The wording of a failure. -/
def Failure.message : Failure → String
  | fault _ text => text
  | definition problem type => aboutType type problem.message
  | notFound sought key type => aboutType type (sought.name ++ " not found: " ++ key)
  | migrationTwice target _ type =>
    aboutType type ("Two migrations target version " ++ toString target)
  | storedNewer stored current type =>
    aboutType type ("Stored version " ++ toString stored ++ " is newer than definition version " ++
      toString current)
  | migration version applied type _ =>
    aboutType type ("Migration to version " ++ toString version ++ " failed (last applied: " ++
      toString applied ++ ")")
  | wrongPhase operation phase type =>
    aboutType type ("Cannot " ++ operation.name ++ " while runtime is " ++ phase.name)
  | missingCollaborator role type =>
    aboutType type ("No " ++ role.name ++ " collaborator configured")
  | badInstanceId shown => "Instance id must be non-empty and not start with '$': " ++ shown
  | incompleteMapping => "Instance mappings need $id and $type"
  | unknownMember .handlerContext name =>
    Host.handlerContext.name ++ " has no attribute or function " ++ Text.quoted name
  | unknownMember .queryContext name =>
    Host.queryContext.name ++ " has no attribute " ++ Text.quoted name

end Entity
