import SenderPolicy.Pattern.Match
import SenderPolicy.Pattern.Reader
import SenderPolicy.Settings
import SenderPolicy.Text.Letter

/-!
# Logging

Log lines go to the console and, where a directory is configured, to a file. The least level that
is logged is configured by name; a name that is not known means `INFO`. A line is made from a
pattern with fields for the level, the name of the logger and the message; a pattern without a
field is refused.
-/

namespace SenderPolicy.Logging

/-- The names of levels, the name that is shown for a level first. -/
def levelNames : List (Text × Int) :=
  [("CRITICAL", 50), ("FATAL", 50), ("ERROR", 40), ("WARNING", 30), ("WARN", 30), ("INFO", 20),
   ("DEBUG", 10), ("NOTSET", 0)]

/-- The level of ordinary events. -/
def infoLevel : Int := 20

/-- The level of a name in letters of either case. -/
def levelOf (name : Text) : Int :=
  (levelNames.lookup name.capitals).getD infoLevel

/-- The name that is shown for a level. -/
def levelName (level : Int) : Text :=
  match levelNames.find? (·.2 = level) with
  | some (name, _) => name
  | none => "Level " ++ toString level

/-- The name of a logger. The one above all others is asked for without a name. -/
def loggerName (asked : Text) : Text := if asked.isEmpty then "root" else asked

/-- One event to log. -/
structure Event where
  /-- The name of the logger. -/
  logger : Text
  /-- The level. -/
  level : Int
  /-- The message. -/
  message : Text

/-- The fields of a pattern, each with the text that stands for it. -/
def fields (e : Event) : List (Text × Text) :=
  [("%(levelname)s", levelName e.level), ("%(name)s", e.logger),
   ("%(message)s", e.message), ("%%", "%")]

/-- A pattern with its fields filled in. The first number is of characters that belong to a field
which has been filled in already. -/
def fill (e : Event) : (skip : Nat) → Text → Text
  | _, [] => []
  | skip + 1, _ :: rest => fill e skip rest
  | 0, c :: rest =>
    match (fields e).find? (·.1.isPrefixOf (c :: rest)) with
    | some (field, value) => value ++ fill e (field.length - 1) rest
    | none => c :: fill e 0 rest

/-- The pattern of a field: a percent sign, a name in parentheses, flags, a width and a number of
places, of which all but the name may be missing, and a letter that says how the value is shown. -/
def fieldPattern : Pattern :=
  (Pattern.read
    "%\\(\\w+\\)[#0+ -]*(\\*|\\d+)?(\\.(\\*|\\d+))?[diouxefgcrsa%]").toOption.getD ⟨[], 0⟩

/-- Whether a text has a field somewhere. -/
def hasField : Text → Bool
  | [] => false
  | c :: rest => (fieldPattern.matchStart? (c :: rest)).isSome || hasField rest

/-- The pattern of a line that is the message alone. -/
def messagePattern : Text := "%(message)s"

/-- What is wrong with the pattern of a line. -/
inductive LinePatternFault
  /-- The pattern has no field, so that all lines are alike. -/
  | withoutField (pattern : Text)
  /-- The pattern is no text, but of another type. -/
  | notText (type : String)
  deriving DecidableEq, Repr

/-- The wording of a fault. -/
def LinePatternFault.message : LinePatternFault → Text
  | .withoutField pattern => "Invalid format '" ++ pattern ++ "' for '%' style"
  | .notText type => "expected string or bytes-like object, got '" ++ type ++ "'"

/-- The pattern of a configuration. A value that counts as false stands for the message alone. -/
def patternOf (config : Json) : Except LinePatternFault Text :=
  match (config.field? "LOG_FORMAT").getD (.string defaultLogFormat) with
  | .string s =>
    if s.isEmpty then .ok messagePattern
    else if hasField s then .ok s
    else .error (.withoutField s)
  | v => if v.isTruthy then .error (.notText v.typeName) else .ok messagePattern

/-- How events are logged. -/
structure Setup where
  /-- The level as it is configured. -/
  requested : Text
  /-- The least level that is logged. -/
  level : Int
  /-- The pattern of a line. -/
  pattern : Text
  /-- Whether lines are kept in a file. -/
  toFile : Bool

/-- The setup of a configuration, for a level that is given or else configured. -/
def Setup.ofConfig (config level : Json) : Except LinePatternFault Setup :=
  let requested := match level with
    | .null => ((config.field? "LOG_LEVEL").getD (.string "INFO")).plainText
    | v => v.plainText
  (patternOf config).map fun pattern =>
    ⟨requested, levelOf requested, pattern, (config.field "LOG_DIR").isTruthy⟩

/-- The size in bytes at which a log file is closed. -/
def maxFileSize : Nat := 10485760

/-- The number of closed log files that are kept. -/
def keptFiles : Nat := 10

/-- The name of the log file of a day that is written with digits alone. -/
def fileName (day : String) : String := "spf-inspector-" ++ day ++ ".log"

namespace Setup

variable (s : Setup)

/-- The event that tells of the setup itself. -/
def announcement (logger : Text) : Event :=
  ⟨logger, infoLevel, "Logging configured with level: " ++ s.requested⟩

/-- Whether an event is logged. -/
def admits (e : Event) : Bool := 0 < e.level && s.level ≤ e.level

/-- The line of an event, if it is logged. -/
def line (e : Event) : Text := if s.admits e then fill e 0 s.pattern ++ "\n" else []

/-- The lines of a list of events. -/
def lines (es : List Event) : Text := es.flatMap s.line

end Setup

end SenderPolicy.Logging
