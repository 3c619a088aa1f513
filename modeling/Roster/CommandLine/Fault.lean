import Roster.CommandLine.Usage

/-!
# Faults of command lines

Why a command line cannot be read, with the tips that are given and the usage that is shown.
-/

namespace Roster.CommandLine

/-- Why a value is not one of its kind. -/
inductive ValueFault where
  | empty
  | badDigit
  | tooLarge
  | unknownLanguage (t : Text)
deriving DecidableEq, Inhabited

/-- The wording of a fault of a value. -/
def ValueFault.message : ValueFault → Text
  | .empty => "cannot parse integer from empty string".toList
  | .badDigit => "invalid digit found in string".toList
  | .tooLarge => "number too large to fit in target type".toList
  | .unknownLanguage t => Language.unsupported t

/-- What may have been meant. -/
inductive Tip where
  | argument (name : Text)
  | subcommands (names : List Text)
  | value (shown : Text)
  | elsewhere (subcommand name : Text)
  | withoutDashes (subcommand : Text)
deriving DecidableEq, Inhabited

/-- A text between apostrophes. -/
def between (t : Text) : Text := '\'' :: t ++ ['\'']

/-- The wording of a tip. -/
def Tip.message : Tip → Text
  | .argument name => "a similar argument exists: ".toList ++ between (dashes ++ name)
  | .subcommands [name] => "a similar subcommand exists: ".toList ++ between name
  | .subcommands names =>
    "some similar subcommands exist: ".toList ++ Text.joinWith [',', ' '] (names.map between)
  | .value shown =>
    "to pass ".toList ++ between shown ++ " as a value, use ".toList ++
      between (dashes ++ ' ' :: shown)
  | .elsewhere subcommand name => between (subcommand ++ ' ' :: dashes ++ name) ++ " exists".toList
  | .withoutDashes subcommand =>
    "subcommand ".toList ++ between subcommand ++ " exists; to use it, remove the ".toList ++
      between dashes ++ " before it".toList

/-- Why a command line cannot be read. -/
inductive Fault where
  | unknownArgument (c : Command) (shown : Text) (tips : List Tip) (used : List Text)
  | unknownSubcommand (c : Command) (name : Text) (tips : List Tip)
  | repeated (c : Command) (a : Argument)
  | unneededValue (c : Command) (f : Flag) (value : Text) (used : List Text)
  | missingValue (c : Command) (a : Argument)
  | badValue (c : Command) (a : Argument) (value : Text) (fault : ValueFault)
  | missingArguments (c : Command) (missing : List Argument) (used : List Text)

namespace Fault

/-- The command that was called. -/
def command : Fault → Command
  | .unknownArgument c _ _ _ | .unknownSubcommand c _ _ | .repeated c _ | .unneededValue c _ _ _
  | .missingValue c _ | .badValue c _ _ _ | .missingArguments c _ _ => c

/-- What is wrong. -/
def reason : Fault → Text
  | .unknownArgument _ shown _ _ =>
    "unexpected argument ".toList ++ between shown ++ " found".toList
  | .unknownSubcommand _ name _ => "unrecognized subcommand ".toList ++ between name
  | .repeated _ a =>
    "the argument ".toList ++ between a.shown ++ " cannot be used multiple times".toList
  | .unneededValue _ f value _ =>
    "unexpected value ".toList ++ between value ++ " for ".toList ++ between f.shown ++
      " found; no more were expected".toList
  | .missingValue _ a =>
    "a value is required for ".toList ++ between a.shown ++ " but none was supplied".toList
  | .badValue _ a value fault =>
    "invalid value ".toList ++ between value ++ " for ".toList ++ between a.shown ++ ": ".toList ++
      fault.message
  | .missingArguments _ missing _ =>
    "the following required arguments were not provided:".toList ++
      missing.flatMap fun a => "\n  ".toList ++ a.shown

/-- The tips that are given. -/
def tips : Fault → List Tip
  | .unknownArgument _ _ tips _ => tips
  | .unknownSubcommand _ _ tips => tips
  | _ => []

/-- The usage that is shown. -/
def usage? : Fault → Option Text
  | .unknownArgument c _ _ used => some (c.usageOf used)
  | .unknownSubcommand c _ _ => some c.usage
  | .repeated c _ => some c.usage
  | .unneededValue c f _ used => some (c.usageOf (used ++ [f.shown]))
  | .missingValue _ _ => none
  | .badValue _ _ _ _ => none
  | .missingArguments c missing used => some (c.usageOf (used ++ missing.map Argument.shown))

/-- The wording of a fault. -/
def message (f : Fault) : Text :=
  "error: ".toList ++ f.reason ++
    (if f.tips.isEmpty then [] else ['\n']) ++
    (f.tips.flatMap fun tip => "\n  tip: ".toList ++ tip.message) ++
    (match f.usage? with
    | some usage => "\n\nUsage: ".toList ++ usage
    | none => []) ++
    (if f.command.flags.contains .help then
      "\n\nFor more information, try ".toList ++ between Flag.help.shown ++ ['.', '\n']
    else ['\n'])

end Fault

end Roster.CommandLine
