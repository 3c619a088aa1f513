import Roster.CommandLine.Grammar

/-!
# Usage and help

A usage line shows how a command is called. The help of a command also tells what its commands,
arguments and flags are for.

* `Command.usage` is the usage line of a command; `Command.usageOf` is that of one call.
* `Command.help` is the help of a command.
-/

namespace Roster.CommandLine

/-- Environment variables with their values. -/
abbrev Environment := List (Text × Text)

namespace Command

/-! ## Usage -/

/-- Words with a blank in front of each. -/
def spaced (words : List Text) : Text := words.flatMap (' ' :: ·)

/-- How the command is called in general. -/
def usage (c : Command) : Text :=
  let options := if c.options.any (!·.required) then [("[OPTIONS]".toList : Text)] else []
  let named := (c.options.filter (·.required)).map Argument.shown
  let placed := c.positionals.map Argument.shown
  let subcommands := if c.subcommands.isEmpty then [] else [("[COMMAND]".toList : Text)]
  c.path ++ spaced (options ++ named ++ placed ++ subcommands)

/-- How the command is called with the arguments that were used and those it requires. -/
def usageOf (c : Command) (used : List Text) : Text :=
  if used.isEmpty then c.usage
  else
    let named := (c.options.filter (·.required)).map Argument.shown
    let placed := (c.positionals.filter (·.required)).map Argument.shown
    let more := used.eraseDups.filter fun shown => !named.contains shown && !placed.contains shown
    c.path ++ spaced (named ++ more ++ placed)

/-! ## Help -/

/-- One entry of a list: the letter of a flag, what is described, and its description. -/
structure Entry where
  letter? : Option Char := none
  shown : Text
  about : Text

/-- Blanks. -/
def blanks (n : Nat) : Text := List.replicate n ' '

/-- What stands in front of an entry in a list of flags and options. -/
def Entry.lead (e : Entry) : Text :=
  match e.letter? with
  | some letter => ['-', letter, ',', ' ']
  | none => blanks 4

/-- The width of a line that descriptions should keep to. -/
def lineWidth : Nat := 100

/-- The blanks in front of a description on a line of its own. -/
def indent : Nat := 10

/-- The width of the longest entry. -/
def longest (entries : List Entry) : Nat := (entries.map fun e => e.shown.length).foldl max 0

/-- The description of an entry is too long to stand beside wide entries. -/
def isTooLong (width : Nat) (e : Entry) : Bool :=
  let taken := width + 8
  taken ≤ lineWidth && 40 * lineWidth < 100 * taken && lineWidth - taken < e.about.length

/-- A description whose lines after the first are moved behind blanks. -/
def indented (n : Nat) (about : Text) : Text :=
  Text.joinWith ('\n' :: blanks n) (Text.lines about)

/-- A list of entries with their descriptions beside or below them. -/
def listed (led : Bool) (entries : List Entry) : Text :=
  let width := longest entries
  let below := entries.any (isTooLong width)
  entries.flatMap fun e =>
    let lead := blanks 2 ++ if led then e.lead else []
    let column := lead.length + width + 2
    lead ++ e.shown ++
      (if below then '\n' :: blanks indent ++ indented indent e.about
      else blanks (width + 2 - e.shown.length) ++ indented column e.about) ++ ['\n']

/-- A list below its title. -/
def titled (title : String) (list : Text) : Text := '\n' :: title.toList ++ ":\n".toList ++ list

/-- The description of an argument with its variable and default. -/
def described (environment : Environment) (a : Argument) : Text :=
  let given (name : Text) := (environment.lookup name).getD []
  a.about ++
    (match a.env? with
    | some name => " [env: ".toList ++ name ++ '=' :: given name ++ [']']
    | none => []) ++
    (match a.default? with
    | some default => " [default: ".toList ++ default ++ [']']
    | none => [])

/-- The help of the command. -/
def help (c : Command) (environment : Environment) : Text :=
  let described (a : Argument) : Entry := { shown := a.shown, about := described environment a }
  let flags := c.flags.map fun f =>
    ({ letter? := f.letter, shown := f.shown, about := f.about } : Entry)
  let subcommands := c.subcommands.map fun s => ({ shown := s.name, about := s.about } : Entry)
  let options := c.options.map described ++ flags
  let positionals := c.positionals.map described
  c.about ++ "\n\nUsage: ".toList ++ c.usage ++ ['\n'] ++
    (if subcommands.isEmpty then [] else titled "Commands" (listed false subcommands)) ++
    (if positionals.isEmpty then [] else titled "Arguments" (listed false positionals)) ++
    (if options.isEmpty then [] else titled "Options" (listed true options))

end Command

end Roster.CommandLine
