import SenderPolicy.CommandLine.Command
import SenderPolicy.CommandLine.RouteTable
import SenderPolicy.Http.Service
import SenderPolicy.Json.Printer

/-!
# The command line

The service is managed by commands: one prints the report on a domain, one forgets the requests
that were admitted, and one shows the routes. A command that is not used correctly ends with
status 2 and tells how it is used.
-/

namespace SenderPolicy.CommandLine

/-- What a run of the program leaves behind. -/
structure Outcome (τ : Type) where
  /-- The status with which it ends. -/
  status : Nat
  /-- What it prints. -/
  output : Text
  /-- What it prints about its misuse. -/
  errors : Text
  /-- Why the evaluation was aborted. -/
  abort : Option Abort
  /-- The requests that were admitted and are not forgotten. -/
  admissions : Admissions τ
  /-- The lookups that were made. -/
  queries : List (Query τ)

namespace Outcome

variable {τ : Type}

/-- A run that prints a text. -/
def printed (output : Text) (a : Admissions τ) : Outcome τ := ⟨0, output, "", none, a, []⟩

/-- A run that fails with a text. -/
def failed (status : Nat) (errors : Text) (a : Admissions τ) : Outcome τ :=
  ⟨status, "", errors, none, a, []⟩

/-- A run that was misused: it tells the usage, the place to ask for help, and the mistake. -/
def misused (f : Form) (m : Misuse) (a : Admissions τ) : Outcome τ :=
  let usage : Text := "Usage: " ++ f.synopsis ++ "\nTry '" ++ f.path ++ " --help' for help.\n\n"
  failed 2 ((if m.isBare then [] else usage) ++ "Error: " ++ m.message ++ "\n") a

/-- A run that ends before a command is performed. -/
def ended (f : Form) (e : Ending) (a : Admissions τ) : Outcome τ :=
  match e with
  | .help => printed f.help a
  | .noWords => failed 2 f.help a
  | .version => printed versionText a
  | .misuse m => misused f m a

/-- The report on a domain, printed. -/
def ofReport (t : Traced τ Report) (a : Admissions τ) : Outcome τ :=
  match t.outcome with
  | .error abort => ⟨1, "", "", abort, a, t.queries⟩
  | .ok r => ⟨if r.isValid then 0 else 1, r.toJson.indented ++ "\n", "", none, a, t.queries⟩

end Outcome

/-- The command below a form that the first argument names, and the words after it. A first argument
that names none is read as an option once more. -/
def chooseCommand (f : Form) (close : List Text) : List Text → Except Ending (Text × List Text)
  | [] => .error (.misuse .missingCommand)
  | word :: rest =>
    if f.commands.any (·.1 = word) then .ok (word, rest)
    else do
      let _ ← readWords f (word :: rest)
      .error (.misuse (.unknownCommand word (Text.closeTo word close)))

/-- What a command says that needs more than the service. -/
def unavailable : Text := "Error: This command is not available.\n"

section Running

variable {τ : Type} [Seconds τ] (s : Http.Service τ) (w : Http.Surroundings τ) (a : Admissions τ)

/-- Performs a command with the words after it. -/
def perform (c : Command) (words : Words) : Except Ending (Outcome τ) :=
  match c with
  | .purge =>
    .ok (if s.limiting then .printed "Rate limiting data purged.\n" []
      else .printed "Rate limiting is disabled.\n" a)
  | .validate =>
    match hostname? (words.arguments.headD []) with
    | none => .error (.misuse .badDomain)
    | some domain => .ok (.ofReport (s.assessor.assess w.zone w.now w.moment domain) a)
  | .routes =>
    let order := ((words.options.lookup sortOption).join.map RouteOrder.ofName).getD
      (.byColumn 0)
    .ok (.printed (routeTable s.base order (words.options.any (·.1 = allMethodsOption))) a)
  | .limiter => do
    let _ ← chooseCommand c.form (c.below.map (·.1)) words.arguments
    pure (.failed 1 unavailable a)
  | .run | .shell => .ok (.failed 1 unavailable a)

/-- Runs a command with the words after it. -/
def runCommand (c : Command) (rest : List Text) : Outcome τ :=
  match readWords c.form rest >>= perform s w a c with
  | .ok o => o
  | .error e => .ended c.form e a

/-- The command that a list of words names, and the words after it. -/
def readProgram (words : List Text) : Except Ending (Text × List Text) := do
  let ws ← readWords programForm words
  chooseCommand programForm (Command.common.map (·.name)) ws.arguments

/-- Runs the program with a list of words, after the admitted requests `a`. -/
def run (words : List Text) : Outcome τ :=
  match readProgram words with
  | .error e => .ended programForm e a
  | .ok (name, rest) =>
    match Command.ofName? name with
    | some c => runCommand s w a c rest
    | none => .ended programForm (.misuse (.unknownCommand name [])) a

end Running

end SenderPolicy.CommandLine
