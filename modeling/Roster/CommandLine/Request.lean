import Roster.CommandLine.Given
import Roster.Suggestion

/-!
# Requests

What a command line asks the program for: a run, or suggestions for a cursor.

* `Request.read` reads a command line.
* `Stop.text` is what is printed when it cannot be read or asks for a text.
-/

namespace Roster

/-- What the program is asked for. -/
structure Request where
  config : Config
  suggestion? : Option Suggestion
deriving DecidableEq

namespace CommandLine

/-- The settings of a run; those that were not given are the usual ones. -/
def configOf (g : Given) : Config :=
  let c := Config.default
  { outputFile := (g.text? "output").getD c.outputFile
    workers := (g.number? "workers").getD c.workers
    snippetsDir := (g.text? "snippets-dir").getD c.snippetsDir
    docsBase := (g.text? "docs-base-url").getD c.docsBase
    servicesPage := (g.text? "services-page").getD c.servicesPage
    policyUrl := (g.text? "policy-generator-url").getD c.policyUrl
    timeoutSecs := (g.number? "timeout-secs").getD c.timeoutSecs
    retryDelayMs := (g.number? "retry-delay-ms").getD c.retryDelayMs }

/-- The cursor that was given. -/
def suggestionOf (g : Given) : Suggestion where
  file := (g.text? "file").getD []
  line := (g.number? "line").getD 0
  column := (g.number? "column").getD 0
  language? := g.language? "language"
  catalog? := g.text? "catalog"

/-- Finds the command whose help is asked for. -/
def helpOf (c : Command) : List Text → Stop
  | [] => .help c
  | name :: rest =>
    match c.subcommand? name with
    | some s => helpOf s rest
    | none => .fault (.unknownSubcommand c name [])

/-- Reads the words behind the name of a command of the program. -/
def readSubcommand (environment : Environment) (c : Command) (rest : List Text) :
    Except Stop Suggestion :=
  if c.name = help.name then .error (helpOf program rest)
  else do
    let (g, _) ← (Given.start c).read rest
    let g ← g.finish environment
    .ok (suggestionOf g)

/-- Reads a command line. The command that is called is read before the last setting in front of
it and the variables are looked at. -/
def read (environment : Environment) (words : List Text) : Except Stop Request := do
  let (g, called?) ← (Given.start program).read words
  let suggestion? ← called?.mapM fun (c, rest) => readSubcommand environment c rest
  let g ← g.finish environment
  .ok ⟨configOf g, suggestion?⟩

namespace Stop

/-- What is printed instead of a run. -/
def text (environment : Environment) : Stop → Text
  | .help c => c.help environment
  | .version => programName ++ ' ' :: CommandLine.version ++ ['\n']
  | .fault f => f.message

/-- The code with which the program ends. -/
def exitCode : Stop → Nat
  | .fault _ => 2
  | _ => 0

end Stop

end CommandLine

end Roster
