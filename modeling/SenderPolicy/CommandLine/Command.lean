import SenderPolicy.CommandLine.Words

/-!
# Commands

The program has commands of its own, which make reports and manage the rate limit, and commands of
every program that serves requests: they show the routes, start a server for development, start a
shell, and look into the rate limits. Each has its form.
-/

namespace SenderPolicy.CommandLine

/-- The name under which the program is run. -/
def program : Text := "manage.py"

/-- A command. -/
inductive Command
  /-- Look into the rate limits. -/
  | limiter
  /-- Forget the requests that were admitted. -/
  | purge
  /-- Show the routes. -/
  | routes
  /-- Start a server for development. -/
  | run
  /-- Start a shell. -/
  | shell
  /-- Print the report on a domain. -/
  | validate
  deriving DecidableEq, Repr

/-- The switch of the mode for development. -/
def debugOption : OptionForm :=
  { names := ["--debug"], opposites := ["--no-debug"], about := "Set debug mode." }

/-- The option that names the order of the routes. -/
def sortOption : OptionForm :=
  { names := ["--sort", "-s"]
    takes := .oneOf ["endpoint", "methods", "domain", "rule", "match"]
    about := "Method to sort routes by. 'match' is the order that Flask will match routes when " ++
      "dispatching a request." }

/-- The option that asks for all methods of the routes. -/
def allMethodsOption : OptionForm :=
  { names := ["--all-methods"], about := "Show HEAD and OPTIONS methods." }

/-- The options of the server for development. -/
def serverOptions : List OptionForm :=
  [debugOption,
   { names := ["--host", "-h"], takes := .text "TEXT", about := "The interface to bind to." },
   { names := ["--port", "-p"], takes := .integer, about := "The port to bind to." },
   { names := ["--cert"], takes := .text "PATH"
     about := "Specify a certificate file to use HTTPS." },
   { names := ["--key"], takes := .file
     about := "The key file to use when specifying a certificate." },
   { names := ["--reload"], opposites := ["--no-reload"]
     about := "Enable or disable the reloader. By default the reloader is active if debug is " ++
       "enabled." },
   { names := ["--debugger"], opposites := ["--no-debugger"]
     about := "Enable or disable the debugger. By default the debugger is active if debug is " ++
       "enabled." },
   { names := ["--with-threads"], opposites := ["--without-threads"]
     about := "Enable or disable multithreading." },
   { names := ["--extra-files"], takes := .text "PATH"
     about := "Extra files that trigger a reload on change. Multiple paths are separated by ':'." },
   { names := ["--exclude-patterns"], takes := .text "PATH"
     about := "Files matching these fnmatch patterns will not trigger a reload on change. " ++
       "Multiple patterns are separated by ':'." }]

namespace Command

/-- The name of a command. -/
def name : Command → Text
  | .limiter => "limiter"
  | .purge => "purge-rate-limits"
  | .routes => "routes"
  | .run => "run"
  | .shell => "shell"
  | .validate => "validate-spf"

/-- The commands in alphabetical order. -/
def all : List Command := [.limiter, .purge, .routes, .run, .shell, .validate]

/-- The commands of every program that serves requests. -/
def common : List Command := [.limiter, .routes, .run, .shell]

/-- What a command does, in the list of commands. -/
def summary : Command → Text
  | .limiter => "Flask-Limiter maintenance & utility commands"
  | .purge => "Purge all rate limiting data"
  | .routes => "Show the routes for the app."
  | .run => "Run a development server."
  | .shell => "Run a shell in the app context."
  | .validate => "Validate the SPF record of DOMAIN and print the report"

/-- What a command does, in paragraphs. -/
def about : Command → List Text
  | .routes => ["Show all registered routes with endpoints and methods."]
  | .run =>
    ["Run a local development server.",
     "This server is for development purposes only. It does not provide the stability, " ++
       "security, or performance of production WSGI servers.",
     "The reloader and debugger are enabled by default with the '--debug' option."]
  | .shell =>
    ["Run an interactive Python shell in the context of a given Flask application. The " ++
       "application will populate the default namespace of this shell according to its " ++
       "configuration.",
     "This is useful for executing small snippets of management code without having to " ++
       "manually configure the application."]
  | c => [c.summary]

/-- The options of a command. -/
def options : Command → List OptionForm
  | .routes => [sortOption, allMethodsOption]
  | .run => serverOptions
  | _ => []

/-- The commands below a command. -/
def below : Command → List (Text × Text)
  | .limiter =>
    [("clear", "Clear limits for a specific key"),
     ("config", "View the extension configuration"),
     ("limits", "Enumerate details about all routes with rate limits")]
  | _ => []

/-- How a command is typed. -/
def form (c : Command) : Form :=
  { path := program ++ " " ++ c.name
    about := c.about
    arguments := if c = .validate then ["DOMAIN"] else []
    options := c.options
    commands := c.below }

/-- The command of a name. -/
def ofName? (s : Text) : Option Command := all.find? (·.name = s)

/-- Every command is found under its name. -/
theorem ofName?_name (c : Command) : ofName? c.name = some c := by
  cases c <;> rfl

end Command

/-- The options of the program. -/
def programOptions : List OptionForm :=
  [{ names := ["-e", "--env-file"], takes := .file
     about := "Load environment variables from this file, taking precedence over those set by " ++
       "'.env' and '.flaskenv'. Variables set directly in the environment take highest " ++
       "precedence. python-dotenv must be installed." },
   { names := ["-A", "--app"], takes := .text "IMPORT"
     about := "The Flask application or factory function to load, in the form 'module:name'. " ++
       "Module can be a dotted import or file path. Name is not required if it is 'app', " ++
       "'application', 'create_app', or 'make_app', and can be 'name(args)' to pass arguments." },
   debugOption, versionOption]

/-- How the program is typed. -/
def programForm : Form :=
  { path := program
    about := ["Management script for the SPF inspector"]
    options := programOptions
    commands := Command.all.map fun c => (c.name, c.summary) }

/-- The versions of the program's parts. -/
def versionText : Text := "Python 3.11.2\nFlask 3.1.3\nWerkzeug 3.1.8\n"

end SenderPolicy.CommandLine
