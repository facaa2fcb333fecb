import SenderPolicy.Text.Layout

/-!
# Forms of commands

A form says how a command is typed: its options, its arguments and, for a command that leads to
others, the commands below it. The help of a command is its form, laid out for reading.
-/

namespace SenderPolicy.CommandLine

/-- What an option takes. -/
inductive Takes
  /-- Nothing: the option is a switch. -/
  | nothing
  /-- Any text, which is shown under a name. -/
  | text (shown : Text)
  /-- One of some words. -/
  | oneOf (choices : List Text)
  /-- An integer. -/
  | integer
  /-- The name of a file that exists. -/
  | file
  deriving DecidableEq, Repr

/-- An option. -/
structure OptionForm where
  /-- The names of the option. -/
  names : List Text
  /-- The names that switch the option off. -/
  opposites : List Text := []
  /-- What the option takes. -/
  takes : Takes := .nothing
  /-- What the option does. -/
  about : Text
  deriving DecidableEq, Repr

/-- How what an option takes is shown after its names. -/
def Takes.shown : Takes → Text
  | .nothing => ""
  | .text shown => " " ++ shown
  | .oneOf choices => " [" ++ Text.joined "|" choices ++ "]"
  | .integer => " INTEGER"
  | .file => " FILE"

namespace OptionForm

variable (o : OptionForm)

/-- All names of the option. -/
def allNames : List Text := o.names ++ o.opposites

/-- The names as the help shows them, the short ones first. -/
def shownNames : Text :=
  let (long, short) := o.names.partition (("--" : Text).isPrefixOf ·)
  let opposites : Text := if o.opposites.isEmpty then [] else " / " ++ Text.joined ", " o.opposites
  Text.joined ", " (short ++ long) ++ o.takes.shown ++ opposites

end OptionForm

/-- The option that every command has. -/
def helpOption : OptionForm := { names := ["--help"], about := "Show this message and exit." }

/-- How a command is typed. -/
structure Form where
  /-- The words that lead to the command. -/
  path : Text
  /-- What the command does, in paragraphs. -/
  about : List Text
  /-- The names of its arguments. -/
  arguments : List Text := []
  /-- Its options, apart from the option of the help. -/
  options : List OptionForm := []
  /-- The commands below it, each with what it does. -/
  commands : List (Text × Text) := []
  deriving DecidableEq, Repr

namespace Form

variable (f : Form)

/-- All options of the command. -/
def allOptions : List OptionForm := f.options ++ [helpOption]

/-- The command and its parts, as they are typed. -/
def synopsis : Text :=
  let below : List Text := if f.commands.isEmpty then [] else ["COMMAND", "[ARGS]..."]
  Text.joined " " (f.path :: "[OPTIONS]" :: f.arguments ++ below)

/-- The width of a line of the help. -/
def pageWidth : Nat := 80

/-- The greatest width of the first column of a list. -/
def maxColumn : Nat := 30

/-- The lines of one entry of a list, whose first column has a width: the explanation stands beside
the name, or below it if the name is wider than its column. -/
def entryLines (column : Nat) (name about : Text) : List Text :=
  let margin := Text.spaces (column + 4)
  let lines := Text.wrapped (pageWidth - column - 4) about
  let head := Text.spaces 2 ++ name
  if name.length ≤ column then
    match lines with
    | [] => [head]
    | line :: rest => (Text.padded (column + 4) head ++ line) :: rest.map (margin ++ ·)
  else head :: lines.map (margin ++ ·)

/-- The lines of a list of names with their explanations, under a heading. -/
def listLines (heading : Text) (entries : List (Text × Text)) : List Text :=
  let column := min maxColumn ((entries.map (·.1.length)).max?.getD 0)
  [[], heading] ++
    entries.flatMap fun (name, about) => entryLines column name about

/-- The lines of a paragraph that is set in from the margin. -/
def paragraphLines (s : Text) : List Text :=
  [] :: (Text.wrapped (pageWidth - 4) s).map (Text.spaces 2 ++ ·)

/-- The help of the command. -/
def help : Text :=
  let lines := ("Usage: " ++ f.synopsis) :: f.about.flatMap paragraphLines ++
    listLines "Options:" (f.allOptions.map fun o => (o.shownNames, o.about)) ++
    if f.commands.isEmpty then [] else listLines "Commands:" f.commands
  lines.flatMap (· ++ "\n")

end Form

end SenderPolicy.CommandLine
