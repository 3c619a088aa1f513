import Roster.Config

/-!
# The grammar of the command line

The program has settings for a run and a command that suggests principals for a cursor. A command
has arguments with values, which are named or stand at a place, and flags without a value.

* `program` is the program itself, `suggest` and `help` are its commands.
-/

namespace Roster.CommandLine

/-- What the value of an argument is. -/
inductive Kind where
  | text
  | path
  | number
  | language
deriving DecidableEq, Inhabited

/-- An argument with a value. -/
structure Argument where
  name : Text
  label : Text
  kind : Kind := .text
  about : Text
  positional : Bool := false
  required : Bool := false
  repeated : Bool := false
  env? : Option Text := none
  default? : Option Text := none
deriving DecidableEq, Inhabited

/-- A flag asks for a text instead of a run. -/
inductive Flag where
  | help
  | version
deriving DecidableEq, Inhabited

/-- A command: the program itself, or one of its own commands. -/
structure Command where
  name : Text
  path : Text
  about : Text
  arguments : List Argument
  flags : List Flag
  subcommands : List Command

instance : Inhabited Command := ⟨⟨[], [], [], [], [], []⟩⟩

/-! ## How arguments are written -/

/-- The sign in front of the name of an argument. -/
def dashes : Text := ['-', '-']

/-- An argument with its label. -/
def Argument.shown (a : Argument) : Text :=
  if a.positional then
    (if a.required then '<' :: a.label ++ ['>'] else '[' :: a.label ++ [']']) ++
      (if a.repeated then "...".toList else [])
  else dashes ++ a.name ++ " <".toList ++ a.label ++ ['>']

/-- The letter of a flag. -/
def Flag.letter : Flag → Char
  | .help => 'h'
  | .version => 'V'

/-- The name of a flag. -/
def Flag.name : Flag → Text
  | .help => "help".toList
  | .version => "version".toList

/-- A flag by its name. -/
def Flag.shown (f : Flag) : Text := dashes ++ f.name

/-- What a flag is for. -/
def Flag.about (f : Flag) : Text := "Print ".toList ++ f.name

namespace Command

/-- The arguments that are named. -/
def options (c : Command) : List Argument := c.arguments.filter (!·.positional)

/-- The arguments that stand at a place. -/
def positionals (c : Command) : List Argument := c.arguments.filter (·.positional)

/-- The arguments that may not be missing, the named ones first. -/
def required (c : Command) : List Argument :=
  c.options.filter (·.required) ++ c.positionals.filter (·.required)

/-- The names of the arguments and flags. -/
def names (c : Command) : List Text := c.options.map (·.name) ++ c.flags.map Flag.name

/-- The command of a command with a name. -/
def subcommand? (c : Command) (name : Text) : Option Command :=
  c.subcommands.find? (·.name = name)

end Command

/-! ## The program -/

/-- The name of the program. -/
def programName : Text := "svc-principals".toList

/-- The version of the program. -/
def version : Text := "0.1.0".toList

/-- The environment variable that stands in for an argument. -/
def variableOf (name : String) : Text :=
  "SVC_PRINCIPALS_".toList ++ name.toList.map fun c => if c = '-' then '_' else c.toUpper

/-- An argument of the program, which a variable may stand in for. -/
def setting (name label : String) (kind : Kind) (about : String) (default : Text) : Argument where
  name := name.toList
  label := label.toList
  kind := kind
  about := about.toList
  env? := some (variableOf name)
  default? := some default

/-- The settings of a run. -/
def settings : List Argument :=
  let c := Config.default
  [setting "output" "OUTPUT_FILE" .text "Output file name, written inside the snippets directory"
      c.outputFile,
    setting "workers" "WORKERS" .number "Number of parallel workers scraping service pages"
      (Text.ofNat c.workers),
    setting "snippets-dir" "SNIPPETS_DIR" .path
      "Directory the output file is written to (created if missing)" c.snippetsDir,
    setting "docs-base-url" "DOCS_BASE_URL" .text "Base URL of the IAM user guide" c.docsBase,
    setting "services-page" "SERVICES_PAGE" .text
      "Page listing the services that work with IAM, relative to the base URL" c.servicesPage,
    setting "policy-generator-url" "POLICY_GENERATOR_URL" .text
      "Policy generator script embedding the service map" c.policyUrl,
    setting "timeout-secs" "TIMEOUT_SECS" .number "Per-request timeout in seconds"
      (Text.ofNat c.timeoutSecs),
    setting "retry-delay-ms" "RETRY_DELAY_MS" .number
      "Pause between policy generator attempts, in milliseconds" (Text.ofNat c.retryDelayMs)]

/-- The document of a suggestion. -/
def file : Argument where
  name := "file".toList
  label := "FILE".toList
  kind := .path
  about := "Document being edited".toList
  positional := true
  required := true

/-- The line of the cursor. -/
def line : Argument where
  name := "line".toList
  label := "LINE".toList
  kind := .number
  about := "Zero-based cursor line".toList
  required := true

/-- The column of the cursor. -/
def column : Argument where
  name := "column".toList
  label := "COLUMN".toList
  kind := .number
  about := "Zero-based cursor column".toList
  default? := some ['0']

/-- The language of the document. -/
def language : Argument where
  name := "language".toList
  label := "LANGUAGE".toList
  kind := .language
  about := "Document language; inferred from the file extension when omitted".toList

/-- The file with the principals to suggest. -/
def catalog : Argument where
  name := "catalog".toList
  label := "CATALOG".toList
  kind := .path
  about := "Principals JSON to read; defaults to the scraper's output path".toList

/-- The command that suggests principals. -/
def suggest : Command where
  name := "suggest".toList
  path := programName ++ " suggest".toList
  about := "Print the known principals if the cursor sits inside a principal block".toList
  arguments := [file, line, column, language, catalog]
  flags := [.help]
  subcommands := []

/-- The command that prints help. -/
def help : Command where
  name := "help".toList
  path := programName ++ " help".toList
  about := "Print this message or the help of the given subcommand(s)".toList
  arguments := [{
    name := "subcommand".toList
    label := "COMMAND".toList
    about := "Print help for the subcommand(s)".toList
    positional := true
    repeated := true }]
  flags := []
  subcommands := []

/-- The program itself. -/
def program : Command where
  name := programName
  path := programName
  about := "Scrapes AWS IAM service principals from the docs and the policy generator".toList
  arguments := settings
  flags := [.help, .version]
  subcommands := [suggest, help]

end Roster.CommandLine
