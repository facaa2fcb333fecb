import SenderPolicy.Configuration

/-!
# Settings

The service is configured by the environment. One variable chooses a profile; the profile fixes
some settings, and others are read from variables with a default each. Numbers that cannot be read
are refused, the first of them in a fixed order, also where the profile overrides the setting.
-/

namespace SenderPolicy

/-- The values of environment variables. -/
abbrev Environment := String → Option Text

/-- The value of a variable, or a default. -/
def Environment.get (env : Environment) (name default : String) : Text :=
  (env name).getD default

/-- A set of settings for one purpose. -/
inductive Profile
  /-- For work on the service. -/
  | development
  /-- For tests. -/
  | testing
  /-- For use. -/
  | production
  deriving DecidableEq, Repr

/-- The profile that the environment chooses. -/
def Profile.ofEnvironment (env : Environment) : Profile :=
  match (env.get "FLASK_ENV" "default").toString with
  | "testing" => .testing
  | "production" => .production
  | _ => .development

/-- The items of a list that is written with commas, without the blanks around them. -/
def commaItems (s : Text) : List Text :=
  ((Text.parts ',' s).map Text.trim).filter (!·.isEmpty)

/-- The form of a logged line, unless another one is configured. -/
def defaultLogFormat : String := "%(asctime)s - %(name)s - %(levelname)s - %(message)s"

/-- The settings of the service. -/
structure Settings where
  /-- Where interfaces to programs begin. -/
  apiPath : Text
  /-- The origins, separated by commas, whose pages may use the service. -/
  origins : Text
  /-- Whether errors are shown in full. -/
  debug : Bool
  /-- Whether the service runs under test. -/
  testing : Bool
  /-- The name servers to ask; those of the system if there are none. -/
  nameservers : List Text
  /-- The seconds that one lookup may take. -/
  dnsTimeout : Binary64
  /-- The seconds after which an evaluation begins no lookup. -/
  deadline : Binary64
  /-- The lookups that a record may be charged. -/
  lookupLimit : Int
  /-- The directory of log files; none are kept if it is empty. -/
  logDir : Text
  /-- The form of a logged line. -/
  logFormat : String
  /-- The name of the least level that is logged. -/
  logLevel : Text
  /-- Whether requests are limited. -/
  rateLimitEnabled : Bool
  /-- The requests that are admitted in a window. -/
  maxRequests : Int
  /-- The length of the window in seconds. -/
  windowSeconds : Int
  /-- Where admitted requests are kept. -/
  storage : Text
  /-- The version of the service. -/
  version : String

namespace Settings

/-- The name of the service. -/
def serviceName : String := "SPF Inspector"

/-- The settings of an environment. -/
def ofEnvironment (env : Environment) : Except NumeralError Settings := do
  let profile := Profile.ofEnvironment env
  let maxRequests ← readInteger (env.get "RATELIMIT_MAX_REQUESTS" "10")
  let windowSeconds ← readInteger (env.get "RATELIMIT_WINDOW_SECONDS" "60")
  let dnsTimeout ← readReal (env.get "DNS_TIMEOUT" "3.0")
  let deadline ← readReal (env.get "SPF_REQUEST_DEADLINE" "5.0")
  let develops : Bool := profile = .development
  pure
    { apiPath := "/api/v1"
      origins := env.get "CORS_ORIGINS" (if profile = .production then "" else "*")
      debug := profile ≠ .production
      testing := profile = .testing
      nameservers := commaItems (env.get "DNS_NAMESERVERS" "")
      dnsTimeout := if develops then Binary64.ofDecimal false 5 0 else dnsTimeout
      deadline := if develops then Binary64.ofDecimal false 10 0 else deadline
      lookupLimit := 10
      logDir := if profile = .testing then [] else env.get "LOG_DIR" ""
      logFormat := defaultLogFormat
      logLevel := if develops then "DEBUG" else env.get "LOG_LEVEL" "INFO"
      rateLimitEnabled := true
      maxRequests
      windowSeconds
      storage := env.get "RATELIMIT_STORAGE_URI" "memory://"
      version := "1.0.0" }

/-- The settings as a configuration. -/
def toJson (s : Settings) : Json :=
  .object
    [("API_PREFIX", .string s.apiPath),
     ("APP_NAME", .string serviceName),
     ("CORS_ORIGINS", .string s.origins),
     ("DEBUG", .bool s.debug),
     ("DNS_NAMESERVERS", .array (s.nameservers.map .string)),
     ("DNS_TIMEOUT", .real s.dnsTimeout),
     ("LOG_DIR", .string s.logDir),
     ("LOG_FORMAT", .string s.logFormat),
     ("LOG_LEVEL", .string s.logLevel),
     ("RATELIMIT_ENABLED", .bool s.rateLimitEnabled),
     ("RATELIMIT_MAX_REQUESTS", .integer s.maxRequests),
     ("RATELIMIT_STORAGE_URI", .string s.storage),
     ("RATELIMIT_WINDOW_SECONDS", .integer s.windowSeconds),
     ("SPF_LOOKUP_LIMIT", .integer s.lookupLimit),
     ("SPF_REQUEST_DEADLINE", .real s.deadline),
     ("TESTING", .bool s.testing),
     ("VERSION", .string s.version)]

end Settings

/-- The settings of the server that runs the service. The windows of the rate limit are kept in
the memory of one process, so there is one worker process with several threads. -/
structure ServerSettings where
  /-- The address and port to listen on. -/
  bind : Text
  /-- The number of threads. -/
  threads : Int

namespace ServerSettings

/-- The server settings of an environment on a machine with a number of processors. -/
def ofEnvironment (processors : Int) (env : Environment) : Except NumeralError ServerSettings := do
  let threads ← match env "GUNICORN_THREADS" with
    | some s => readInteger s
    | none => .ok (processors * 2 + 1)
  pure { bind := env.get "GUNICORN_BIND" "0.0.0.0:5000", threads }

/-- The form of a line of the server's access log. -/
def accessLogFormat : String :=
  "%(h)s %(l)s %(u)s %(t)s \"%(r)s\" %(s)s %(b)s \"%(f)s\" \"%(a)s\""

/-- The server settings as a configuration. -/
def toJson (s : ServerSettings) : Json :=
  .object
    [("access_log_format", .string accessLogFormat),
     ("accesslog", .string "-"),
     ("backlog", .integer 2048),
     ("bind", .string s.bind),
     ("daemon", .bool false),
     ("errorlog", .string "-"),
     ("keepalive", .integer 2),
     ("loglevel", .string "info"),
     ("max_requests", .integer 1000),
     ("max_requests_jitter", .integer 100),
     ("proc_name", .string "spf-inspector"),
     ("threads", .integer s.threads),
     ("timeout", .integer 30),
     ("worker_class", .string "gthread"),
     ("workers", .integer 1),
     ("wsgi_app", .string "app:app")]

end ServerSettings

end SenderPolicy
