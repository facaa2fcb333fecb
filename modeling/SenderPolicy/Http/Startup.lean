import SenderPolicy.Http.Service
import SenderPolicy.Logging

/-!
# Starting the service

A service is started with a configuration. Its parts are set up one after another, and the first
fault that one of them finds stops the start: the pattern of log lines, the store of admitted
requests, the numbers of the rate limit, the allowed origins, and the path of the interface. What
is wrong with the settings of an evaluation is found later, by the assessor.
-/

namespace SenderPolicy.Http

/-- Why a service does not start. -/
inductive StartupFault
  /-- The pattern of log lines is of no use. -/
  | logging (f : Logging.LinePatternFault)
  /-- There is no store of admitted requests at an address. -/
  | unknownStore (address : Text)
  /-- A number of the rate limit cannot be read. -/
  | numeral (e : NumeralError)
  /-- A pattern of origins cannot be read. -/
  | origin (b : BadOrigin)
  /-- A setting is of a type that lacks an operation that is needed. -/
  | lacking (type operation : String)
  /-- The path of a route does not begin with a slash. -/
  | relativePath (path : Text)
  deriving DecidableEq

/-- The wording of a fault. -/
def StartupFault.message : StartupFault → Text
  | .logging f => f.message
  | .unknownStore address => "unknown storage scheme : " ++ address
  | .numeral e => e.message
  | .origin b => b.message
  | .lacking type operation =>
    "'" ++ type ++ "' object has no attribute '" ++ operation ++ "'"
  | .relativePath path => "URL rule " ++ path.quoted ++ " must start with a slash."

/-- The store in the memory of the process, which is the only one. -/
def memoryScheme : Text := "memory"

/-- Checks the address of the store of admitted requests. Without one they are kept in memory. -/
def checkStore (config : Json) : Except StartupFault Unit :=
  match config.field "RATELIMIT_STORAGE_URI" with
  | .string address =>
    if address.isEmpty || (Target.cutScheme address).1 = memoryScheme then .ok ()
    else .error (.unknownStore address)
  | v => if v.isTruthy then .error (.lacking v.typeName "decode") else .ok ()

/-- The allowed origins of a configuration; every origin is allowed if it has none. -/
def configuredOrigins (config : Json) : Except StartupFault (List OriginRule) :=
  match (config.field? "CORS_ORIGINS").getD (.string everyOrigin) with
  | .string s => (originsOf s).mapError .origin
  | v => .error (.lacking v.typeName "split")

/-- The path of the interface, unless another one is configured. -/
def defaultBase : Text := "/api/v1"

/-- The path of the interface of a configuration, without the slashes at its end. -/
def configuredBase (config : Json) : Except StartupFault Text :=
  match config.field "API_PREFIX" with
  | .null => .ok defaultBase
  | .string s =>
    let base := Text.dropEndWhile (· = .char '/') s
    let path := Route.published.pattern base
    if path.head? = some '/' then .ok base else .error (.relativePath path)
  | v => .error (.lacking v.typeName "rstrip")

/-- The assessor of a configuration. -/
def configuredAssessor (config : Json) : Assessor Binary64 :=
  let lookups := (config.field "SPF_LOOKUP_LIMIT").toLookupLimit
  ⟨lookups, (config.field "SPF_REQUEST_DEADLINE").toSeconds, lookups⟩

/-- The service of a configuration. -/
def Service.ofConfig (config : Json) : Except StartupFault (Service Binary64) := do
  let _ ← (Logging.patternOf config).mapError .logging
  let limiting := (config.field "RATELIMIT_ENABLED").isTruthy
  if limiting then checkStore config
  let (requests, window) ← (rateNumbers config).mapError .numeral
  let origins ← configuredOrigins config
  let base ← configuredBase config
  pure
    { version := config.field "VERSION"
      base
      origins
      limiting
      rule := .ofNumbers requests window
      assessor := configuredAssessor config }

end SenderPolicy.Http
