import SenderPolicy.CommandLine.Form
import SenderPolicy.Numeral.Integer
import SenderPolicy.Text.Quoted
import SenderPolicy.Text.Similarity

/-!
# Words of a command

The words after a command are sorted into options and arguments. A word that begins with a hyphen
and has more characters is an option: after two hyphens its name, and after one hyphen the letters
of short names in a row. A double hyphen ends the options. Where commands follow, the first word
that is no option ends them as well.
-/

namespace SenderPolicy.CommandLine

/-- How the program was misused. -/
inductive Misuse
  /-- There is no command. -/
  | missingCommand
  /-- There is no such command, but others that are close to it. -/
  | unknownCommand (name : Text) (close : List Text)
  /-- There is no such option, but others that are close to it. -/
  | unknownOption (name : Text) (close : List Text)
  /-- A value is given to an option that takes none. -/
  | unexpectedValue (name : Text)
  /-- The value of an option is missing. -/
  | missingValue (name : Text)
  /-- The value of an option is of no use, for a reason. -/
  | badValue (o : OptionForm) (reason : Text)
  /-- An argument is missing. -/
  | missingArgument (name : Text)
  /-- There are more arguments than the command takes. -/
  | extraArguments (extra : List Text)
  /-- The domain is no hostname. -/
  | badDomain
  deriving DecidableEq, Repr

/-- The hint at texts that may be meant. -/
def hint : List Text → Text
  | [] => ""
  | [s] => " Did you mean " ++ s.quoted ++ "?"
  | ss => " (Did you mean one of: " ++ Text.joined ", " (ss.map Text.quoted) ++ "?)"

namespace Misuse

/-- The wording of a misuse. -/
def message : Misuse → Text
  | missingCommand => "Missing command."
  | unknownCommand name close =>
    "No such command " ++ name.quoted ++ "." ++ hint close
  | unknownOption name close =>
    "No such option " ++ name.quoted ++ "." ++ hint close
  | unexpectedValue name => "Option " ++ name.quoted ++ " does not take a value."
  | missingValue name => "Option " ++ name.quoted ++ " requires an argument."
  | badValue o reason =>
    "Invalid value for " ++ Text.joined " / " (o.names.map Text.quoted) ++ ": " ++
      reason
  | missingArgument name => "Missing argument '" ++ name ++ "'."
  | extraArguments extra =>
    "Got unexpected extra argument" ++ (if extra.length = 1 then " (" else "s (") ++
      Text.joined " " extra ++ ")"
  | badDomain => "Invalid value for DOMAIN: Invalid domain format"

/-- Whether the message is shown without the usage of the command. -/
def isBare : Misuse → Bool
  | unexpectedValue _ | missingValue _ => true
  | _ => false

end Misuse

/-- Why the reading of words ends before a command is performed. -/
inductive Ending
  /-- The help is asked for. -/
  | help
  /-- There are no words where a command is needed. -/
  | noWords
  /-- The version is asked for. -/
  | version
  /-- The words are misused. -/
  | misuse (m : Misuse)
  deriving DecidableEq, Repr

/-- An option that is given, with its value. -/
abbrev GivenOption := OptionForm × Option Text

/-- What words amount to. -/
structure Words where
  /-- The options, in their order. -/
  options : List GivenOption
  /-- The arguments, in their order. -/
  arguments : List Text
  deriving DecidableEq, Repr

/-- Whether a word is an option. -/
def isOption (word : Text) : Bool := word.head? = some '-' && 1 < word.length

/-- The option of a name. -/
def findOption? (os : List OptionForm) (name : Text) : Option OptionForm :=
  os.find? fun o => o.allNames.contains name

/-- The long names of options. -/
def longNames (os : List OptionForm) : List Text :=
  (os.flatMap OptionForm.allNames).filter (("--" : Text).isPrefixOf ·)

/-- The options of one word, and the option that still needs the next word as its value, with the
name that it has in the word. -/
structure Reading where
  /-- The options. -/
  options : List GivenOption
  /-- The option without a value. -/
  open? : Option (OptionForm × Text) := none

/-- Reads a long option: a name, and a value after an equals sign. -/
def readLong (os : List OptionForm) (word : Text) : Except Misuse Reading :=
  let name := Text.before '=' word
  let value? := (word.drop name.length).tail?
  match findOption? os name, value? with
  | none, _ => .error (.unknownOption name (Text.closeTo name (longNames os)))
  | some o, none => if o.takes = .nothing then .ok ⟨[(o, none)], none⟩ else .ok ⟨[], some (o, name)⟩
  | some o, some value =>
    if o.takes = .nothing then .error (.unexpectedValue name) else .ok ⟨[(o, some value)], none⟩

/-- Reads the letters of short options. What follows the letter of an option with a value is the
value. -/
def readShort (os : List OptionForm) : Text → Except Misuse Reading
  | [] => .ok ⟨[], none⟩
  | c :: rest =>
    match findOption? os ['-', c] with
    | none => .error (.unknownOption ['-', c] [])
    | some o =>
      if o.takes = .nothing then do
        let r ← readShort os rest
        pure { r with options := (o, none) :: r.options }
      else if rest.isEmpty then .ok ⟨[], some (o, ['-', c])⟩
      else .ok ⟨[(o, some rest)], none⟩

/-- Reads the options of a word. -/
def readOption (os : List OptionForm) (word : Text) : Except Misuse Reading :=
  if ("--" : Text).isPrefixOf word then readLong os word else readShort os (word.drop 1)

/-- Puts options in front of what words amount to. -/
def Words.withOptions (w : Words) (given : List GivenOption) : Words :=
  { w with options := given ++ w.options }

/-- Sorts words into options and arguments. If options and arguments are not mixed, the first
argument ends the options. -/
def sortWords (os : List OptionForm) (mixed : Bool) : List Text → Except Misuse Words
  | [] => .ok ⟨[], []⟩
  | word :: rest =>
    if word = "--" then .ok ⟨[], rest⟩
    else if isOption word then do
      let r ← readOption os word
      match r.open? with
      | none => pure ((← sortWords os mixed rest).withOptions r.options)
      | some (o, name) =>
        match rest with
        | [] => .error (.missingValue name)
        | value :: rest =>
          pure ((← sortWords os mixed rest).withOptions (r.options ++ [(o, some value)]))
    else if mixed then do
      let w ← sortWords os mixed rest
      pure { w with arguments := word :: w.arguments }
    else .ok ⟨[], word :: rest⟩

/-- The options of a list without repetitions: the last value of an option counts. -/
def lastValues (given : List GivenOption) : List GivenOption :=
  given.foldl (fun known g =>
    if known.any (·.1 = g.1) then known.map fun h => if h.1 = g.1 then g else h
    else known ++ [g]) []

/-- Why a value is of no use to an option. Names of files are of none: no files are given. -/
def badReason? : Takes → Text → Option Text
  | .nothing, _ | .text _, _ => none
  | .oneOf choices, value =>
    if choices.contains value then none
    else some (value.quoted ++ " is not one of " ++
      Text.joined ", " (choices.map Text.quoted) ++ ".")
  | .integer, value =>
    match readInteger value with
    | .ok _ => none
    | .error _ => some (value.quoted ++ " is not a valid integer.")
  | .file, value => some ("File " ++ value.quoted ++ " does not exist.")

/-- The option that asks for the version. -/
def versionOption : OptionForm := { names := ["--version"], about := "Show the Flask version." }

/-- The end that an option with its value brings about before all others. -/
def earlyEnding? : GivenOption → Option Ending
  | (o, value) =>
    if o = helpOption then some .help
    else if o = versionOption then some .version
    else if o.takes = .file then
      (badReason? o.takes (value.getD [])).map fun reason => .misuse (.badValue o reason)
    else none

/-- The end that an option with its value brings about. -/
def ending? : GivenOption → Option Ending
  | (o, value) =>
    (badReason? o.takes (value.getD [])).map fun reason => .misuse (.badValue o reason)

/-- The arguments are as many as the command takes, unless other commands follow. -/
def checkArity (f : Form) (arguments : List Text) : Except Ending Unit :=
  if !f.commands.isEmpty then .ok ()
  else match f.arguments.drop arguments.length with
    | name :: _ => .error (.misuse (.missingArgument name))
    | [] =>
      match arguments.drop f.arguments.length with
      | [] => .ok ()
      | extra => .error (.misuse (.extraArguments extra))

/-- Reads the words after a command. -/
def readWords (f : Form) (words : List Text) : Except Ending Words := do
  if words.isEmpty && !f.commands.isEmpty then .error .noWords
  let w ← (sortWords f.allOptions f.commands.isEmpty words).mapError .misuse
  let options := lastValues w.options
  match (options.findSome? earlyEnding?).or (options.findSome? ending?) with
  | some e => .error e
  | none =>
    checkArity f w.arguments
    pure { w with options }

end SenderPolicy.CommandLine
