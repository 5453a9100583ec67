import Entity.Text.Split

/-!
# The base of relative identities

Identities are absolute or relative to a base address.  The base is taken from the first source that
gives one: an override, the host of a request, the environment, the configuration, or a fallback.
-/

namespace Entity

open Entity.Text

/-! ## Bases -/

/-- A text without slashes at its end. -/
def withoutFinalSlashes (s : String) : String :=
  String.ofList (dropEndWhile (· == '/') s.toList)

/-- The address of a host; a host with a scheme is an address already. -/
def addressOfHost (host : String) : String :=
  let address := dropEndWhile (· == '/') (trim host.toList)
  if beginsWith "http://".toList address || beginsWith "https://".toList address then
    String.ofList address
  else "https://" ++ String.ofList address

/-- A variable of the environment that may give the base; some name a host. -/
structure BaseVariable where
  name : String
  isHost : Bool

/-- The variables, in order of precedence. -/
def baseVariables : List BaseVariable :=
  [⟨"NOUNS_CONTEXT", false⟩, ⟨"VERCEL_URL", true⟩, ⟨"CF_PAGES_URL", false⟩, ⟨"WORKER_HOST", true⟩]

/-- Where a base may come from. -/
structure BaseSources where
  override : Option String := none
  host : Option String := none
  environment : List (String × String) := []
  configured : Option String := none
  deriving Inhabited

/-- The base that the environment gives. -/
def environmentBase? (environment : List (String × String)) : Option String :=
  baseVariables.findSome? fun v =>
    (nonEmpty? (environment.lookup v.name)).map fun value =>
      if v.isHost then addressOfHost value else withoutFinalSlashes value

/-- The base without any source. -/
def fallbackBase : String := "http://localhost:3000"

/-- The base from the first source that gives one. -/
def BaseSources.resolve (s : BaseSources) : String :=
  match nonEmpty? s.override with
  | some base => withoutFinalSlashes base
  | none => match nonEmpty? s.host with
    | some host => addressOfHost host
    | none => match environmentBase? s.environment with
      | some base => base
      | none => match nonEmpty? s.configured with
        | some base => withoutFinalSlashes base
        | none => fallbackBase

/-! ## Identities -/

/-- The identity stands for itself. -/
def isAbsolute (id : String) : Bool := beginsWith "http".toList id.toList

/-- The absolute form of an identity. -/
def resolveIdentity (base id : String) : String :=
  if isAbsolute id then id
  else withoutFinalSlashes base ++ "/" ++ String.ofList (id.toList.dropWhile (· == '/'))

end Entity
