import SenderPolicy.CommandLine
import SenderPolicy.Http.Startup
import SenderPolicy.Settings
import SenderPolicy.Zone.Table
import Std.Time.DateTime

/-!
# The program

Runs a command of the command line. The settings come from environment variables, the answers of
the DNS from a table in a file of JSON that another variable names.
-/

namespace SenderPolicy.Program

/-- The variables that the settings are read from. -/
def settingVariables : List String :=
  ["FLASK_ENV", "LOG_LEVEL", "LOG_DIR", "CORS_ORIGINS", "RATELIMIT_STORAGE_URI",
   "RATELIMIT_MAX_REQUESTS", "RATELIMIT_WINDOW_SECONDS", "DNS_TIMEOUT", "DNS_NAMESERVERS",
   "SPF_REQUEST_DEADLINE"]

/-- The variable that names the file of the table. -/
def tableVariable : String := "SPF_ZONE_FILE"

/-- The values of the variables of the settings. -/
def readEnvironment : IO Environment := do
  let values ← settingVariables.mapM fun name => do
    pure (name, (← IO.getEnv name).map Text.ofString)
  pure fun name => (values.lookup name).join

/-- The table of answers, which is empty if no file is named or the file holds no JSON. -/
def readTable : IO ZoneTable := do
  match ← IO.getEnv tableVariable with
  | none => pure { answers := [] }
  | some path =>
    let text ← IO.FS.readFile path
    pure { answers := ZoneTable.answersOf ((Json.read? text).getD .null) }

/-- The present moment. -/
def presentMoment : IO Instant := do
  let t := Std.Time.DateTime.ofTimestamp (← Std.Time.Timestamp.now) .UTC
  pure
    { year := t.year.toInt.toNat
      month := t.month.toNat
      day := t.day.toNat
      hour := t.hour.toNat
      minute := t.minute.toNat
      second := t.second.toNat
      microsecond := t.nanosecond.toNat / 1000 }

/-- Runs the command that the words name and tells its status. -/
def run (words : List String) : IO UInt32 := do
  let settings := (Settings.ofEnvironment (← readEnvironment)).mapError Http.StartupFault.numeral
  match settings >>= fun s => Http.Service.ofConfig s.toJson with
  | .error e =>
    IO.eprintln e.message.toString
    pure 1
  | .ok service =>
    let surroundings : Http.Surroundings Binary64 := ⟨(← readTable).zone, 0, ← presentMoment⟩
    let outcome := CommandLine.run service surroundings [] (words.map Text.ofString)
    IO.print outcome.output.toString
    IO.eprint outcome.errors.toString
    match outcome.abort with
    | some a => IO.eprintln a.message.toString
    | none => pure ()
    pure (UInt32.ofNat outcome.status)

end SenderPolicy.Program

/-- Runs the command that the words name and tells its status. -/
def main (words : List String) : IO UInt32 := SenderPolicy.Program.run words
