import Roster.CommandLine.Fault
import Roster.Text.Similarity

/-!
# Given arguments

The words of a command line are read one after the other. An argument waits for its value, and a
value is looked at only when the next argument starts or the line ends; until then another fault
may come first.

* `Argument.read` reads the value of an argument from a text according to its kind.
* `Given.read` reads the words of one command up to the name of a command of it.
* `Given.finish` looks at what is left when the words have ended.
-/

namespace Roster.CommandLine

/-! ## Values of arguments -/

/-- The value of an argument. -/
inductive Value where
  | text (t : Text)
  | number (n : Nat)
  | language (l : Language)
deriving DecidableEq, Inhabited

/-- Above this a number is too large. -/
def maxNumber : Nat := 0xFFFFFFFFFFFFFFFF

/-- Reads digits behind a number; each has to leave the number small enough. -/
def readDigits : (n : Nat) → Text → Except ValueFault Nat
  | n, [] => .ok n
  | n, c :: rest =>
    let next := 10 * n + Text.natOfDigits [c]
    if !Text.isDigit c then .error .badDigit
    else if maxNumber < next then .error .tooLarge
    else readDigits next rest

/-- Reads a number, which may have a plus sign. -/
def readNumber : Text → Except ValueFault Nat
  | [] => .error .empty
  | ['+'] => .error .badDigit
  | '+' :: digits => readDigits 0 digits
  | digits => readDigits 0 digits

/-- Reads the value of an argument of a command. -/
def Argument.read (c : Command) (a : Argument) (t : Text) : Except Fault Value :=
  match a.kind with
  | .text => .ok (.text t)
  | .path => if t.isEmpty then .error (.missingValue c a) else .ok (.text t)
  | .number => ((readNumber t).map .number).mapError (.badValue c a t)
  | .language =>
    match Language.ofName? t with
    | some l => .ok (.language l)
    | none => .error (.badValue c a t (.unknownLanguage t))

/-! ## Given arguments -/

/-- Why the reading of a command line ends early: it asks for a text, or it is faulty. -/
inductive Stop where
  | help (c : Command)
  | version
  | fault (f : Fault)

/-- The arguments that have been given to a command so far. -/
structure Given where
  command : Command
  used : List Argument := []
  values : List (Argument × Value) := []
  waiting? : Option (Argument × Option Text) := none
  places : List Argument
  afterDashes : Bool := false

namespace Given

/-- Nothing has been given to a command. -/
def start (c : Command) : Given := { command := c, places := c.positionals }

/-! ## Values -/

/-- Gives an argument its value. A faulty value counts as used, a second one undoes the first. -/
def take (g : Given) (a : Argument) (t : Text) : Given × Option Fault :=
  if g.used.contains a then
    ({ g with used := g.used.filter (· ≠ a), values := g.values.filter (·.1 ≠ a) },
      some (.repeated g.command a))
  else
    let g := { g with used := g.used ++ [a] }
    match a.read g.command t with
    | .ok v => ({ g with values := g.values ++ [(a, v)] }, none)
    | .error f => (g, some f)

/-- Gives the argument that waits its value. -/
def settle (g : Given) : Given × Option Fault :=
  let free := { g with waiting? := none }
  match g.waiting? with
  | none => (free, none)
  | some (a, none) => (free, some (.missingValue g.command a))
  | some (a, some t) => free.take a t

/-- The state behind a step, or its fault. -/
def orFault : Given × Option Fault → Except Stop Given
  | (g, none) => .ok g
  | (_, some f) => .error (.fault f)

/-- Gives the argument that waits its value, which may not be faulty. -/
def settled (g : Given) : Except Stop Given := orFault g.settle

/-- The arguments that were used, as they are written. -/
def usedTexts (g : Given) : List Text := g.used.map Argument.shown

/-- A named argument waits for its value, so the next word may be it. -/
def awaits (g : Given) : Bool := g.waiting?.any fun (_, value) => value.isNone

/-! ## Names -/

/-- The name and the value in a word that starts with two dashes. -/
def named? (word : Text) : Option (Text × Option Text) :=
  match word with
  | '-' :: '-' :: rest =>
    if rest.isEmpty then none
    else
      match rest.span (· ≠ '=') with
      | (name, _ :: value) => some (name, some value)
      | (name, []) => some (name, none)
  | _ => none

/-- The letter behind the dash of a word of letters. -/
def letter? (word : Text) : Option Char :=
  match word with
  | '-' :: c :: _ => if c = '-' then none else some c
  | _ => none

/-- The commands that have a similar name and are called further on. -/
def elsewhere (c : Command) (name : Text) (rest : List Text) : List (Nat × Tip) :=
  c.subcommands.filterMap fun s => do
    let meant ← (Text.similar name s.names).getLast?
    let place ← rest.findIdx? (· = s.name)
    some (place, .elsewhere s.name meant)

/-- The tip of those with the smallest place. -/
def nearest? (tips : List (Nat × Tip)) : Option Tip :=
  (tips.mergeSort fun a b => a.1 ≤ b.1).head?.map (·.2)

/-- The arguments and flags of a command with a name, as they are written. -/
def shownAs (c : Command) (name : Text) : List Text :=
  ((c.options.filter (·.name = name)).map Argument.shown) ++
    ((c.flags.filter (·.name = name)).map Flag.shown)

/-- The fault of a name that no argument has. -/
def unknownName (g : Given) (name : Text) (rest : List Text) : Fault :=
  let g := g.settle.1
  let c := g.command
  let shown := dashes ++ name
  match (Text.similar name c.names).getLast? with
  | some meant => .unknownArgument c shown [.argument meant] (g.usedTexts ++ shownAs c meant)
  | none =>
    match nearest? (elsewhere c name rest) with
    | some tip => .unknownArgument c shown [tip] g.usedTexts
    | none =>
      let tips := if c.positionals.isEmpty then [] else [Tip.value shown]
      .unknownArgument c shown tips g.usedTexts

/-- Takes a name with or without a value. -/
def takeName (g : Given) (name : Text) (value? : Option Text) (rest : List Text) :
    Except Stop Given :=
  match g.command.options.find? (·.name = name), g.command.flags.find? (·.name = name) with
  | some a, _ => do
    let g ← g.settled
    match value? with
    | some t => orFault (g.take a t)
    | none => .ok { g with waiting? := some (a, none) }
  | none, some f =>
    match value? with
    | some value => .error (.fault (.unneededValue g.command f value g.usedTexts))
    | none => do
      let g ← g.settled
      .error (match f with
        | .help => .help g.command
        | .version => .version)
  | none, none => .error (.fault (g.unknownName name rest))

/-- Takes a word of letters: the first one decides. -/
def takeLetter (g : Given) (letter : Char) : Except Stop Given :=
  match g.command.flags.find? (·.letter = letter) with
  | some f => g.takeName f.name none []
  | none =>
    let shown := ['-', letter]
    let tips := if g.command.positionals.isEmpty then [] else [Tip.value shown]
    .error (.fault (.unknownArgument g.command shown tips []))

/-! ## Places -/

/-- The fault of a word for which there is no place. -/
def unplaced (g : Given) (word : Text) : Fault :=
  let c := g.command
  if g.afterDashes && (c.subcommand? word).isSome then
    .unknownArgument c word [.withoutDashes word] []
  else if c.subcommands.isEmpty then .unknownArgument c word [] []
  else
    match Text.similar word (c.subcommands.map (·.name)) with
    | [] => .unknownSubcommand c word []
    | names => .unknownSubcommand c word [.subcommands names]

/-- Takes a word that stands at a place. -/
def takePlaced (g : Given) (word : Text) : Except Stop Given :=
  match g.places with
  | [] => .error (.fault (g.unplaced word))
  | a :: places => do
    let g ← g.settled
    .ok { g with waiting? := some (a, some word), places }

/-- Takes a word that names no command of the command. -/
def takeWord (g : Given) (word : Text) (rest : List Text) : Except Stop Given :=
  if g.afterDashes then g.takePlaced word
  else if word = dashes then .ok { g with afterDashes := true }
  else
    match named? word, letter? word with
    | some (name, value?), _ => g.takeName name value? rest
    | none, some letter => g.takeLetter letter
    | none, none =>
      match g.waiting? with
      | some (a, none) => .ok { g with waiting? := some (a, some word) }
      | _ => g.takePlaced word

/-! ## Whole commands -/

/-- Reads the words of a command. Answers also the command of it that is called, and the words
behind its name. -/
def read (g : Given) : List Text → Except Stop (Given × Option (Command × List Text))
  | [] => .ok (g, none)
  | word :: rest =>
    match if g.afterDashes || g.awaits then none else g.command.subcommand? word with
    | some c => .ok (g, some (c, rest))
    | none => do
      let g ← g.takeWord word rest
      g.read rest

/-- Gives an argument that was not given the value of its variable. -/
def takeVariable (environment : Environment) (g : Given) (a : Argument) : Except Stop Given :=
  match a.env?.bind fun name => environment.lookup name with
  | some t => if g.used.contains a then .ok g else orFault (g.take a t)
  | none => .ok g

/-- The required arguments that were not given. -/
def missing (g : Given) : List Argument :=
  g.command.required.filter fun a => !g.used.contains a

/-- Looks at the last value, at the variables and at what is missing. -/
def finish (g : Given) (environment : Environment) : Except Stop Given := do
  let g ← g.settled
  let g ← g.command.arguments.foldlM (takeVariable environment) g
  if g.missing.isEmpty then .ok g
  else .error (.fault (.missingArguments g.command g.missing g.usedTexts))

/-! ## Values by name -/

/-- The value of an argument. -/
def value? (g : Given) (name : String) : Option Value :=
  (g.values.find? fun (a, _) => a.name = name.toList).map (·.2)

/-- The value of an argument that is a text or a path. -/
def text? (g : Given) (name : String) : Option Text :=
  match g.value? name with
  | some (.text t) => some t
  | _ => none

/-- The value of an argument that is a number. -/
def number? (g : Given) (name : String) : Option Nat :=
  match g.value? name with
  | some (.number n) => some n
  | _ => none

/-- The value of an argument that is a language. -/
def language? (g : Given) (name : String) : Option Language :=
  match g.value? name with
  | some (.language l) => some l
  | _ => none

end Given

end Roster.CommandLine
