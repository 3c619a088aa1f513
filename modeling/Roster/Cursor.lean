import Roster.Language
import Roster.Text.Lowercase

/-!
# Cursors

Of a document only the text from a few lines above the cursor up to the cursor is looked at. Lines
and columns are counted from zero; a cursor behind the last line is on the last line, one behind
the end of its line is at the end.

A cursor is in a principal context if a service principal belongs where it stands. This is decided
from those lines, read upward from the last one and without regard to case.

* In all languages but YAML a line can be a hit, which decides for a context, or a stop, which
  decides against one; a hit counts before a stop (`scan`).
* In YAML the keys `service:` and `principal:` have to stand together, as their indentation and the
  marks between documents tell (`Yaml.scan`).
-/

namespace Roster.Cursor

/-! ## The text in front of a cursor -/

/-- How many lines above the cursor are looked at. -/
def linesAbove : Nat := 40

/-- The text from at most `linesAbove` lines above the cursor up to the cursor. -/
def textBefore (document : Text) (line column : Nat) : Text :=
  let lines := Text.lines document
  let line := min line (lines.length - 1)
  let above := (lines.take line).drop (line - linesAbove)
  above.flatMap (· ++ ['\n']) ++ (lines.getD line []).take column

/-! ## Hits and stops -/

/-- A line as it is compared: without white space at its ends and in lower case. -/
def folded (line : Text) : Text := Text.lowercase (Text.trim line)

/-- Whether a line that is a hit comes before any that is a stop. -/
def scan (hit stop : Text → Bool) : List Text → Bool
  | [] => false
  | line :: above => hit line || (!stop line && scan hit stop above)

/-- The line names a principal and opens its value. -/
def jsonHit (line : Text) : Bool :=
  (Text.occursIn "\"principal\"".toList line || Text.occursIn "\"notprincipal\"".toList line) &&
    (line.contains '{' || line.contains ':')

/-- The line opens a block for a principal. -/
def terraformHit (line : Text) : Bool :=
  Text.occursIn "principal".toList line && line.contains '=' && line.contains '{'

/-- The line closes a block or a list. -/
def closesBlock (line : Text) : Bool :=
  Text.startsWith ['}'] line || Text.startsWith [']'] line

/-- The line starts a principal or names what it is given to. -/
def typescriptHit (line : Text) : Bool :=
  Text.occursIn "serviceprincipal(".toList line || Text.occursIn "assumedby:".toList line ||
    Text.occursIn "principal:".toList line

/-- The line declares a class or an interface. -/
def typescriptStop (line : Text) : Bool :=
  Text.occursIn "class".toList line || Text.occursIn "interface".toList line

/-- The line starts a principal or names what it is given to. -/
def pythonHit (line : Text) : Bool :=
  Text.occursIn "serviceprincipal(".toList line || Text.occursIn "assumed_by=".toList line ||
    Text.occursIn "principal=".toList line

/-- The line starts a definition or closes a call. -/
def pythonStop (line : Text) : Bool :=
  Text.startsWith "class ".toList line || Text.startsWith "def ".toList line ||
    Text.startsWith [')'] line

/-! ## Indentation -/

namespace Yaml

/-- The bytes in front of the first character that is no white space; a blank line has none. -/
def indent? (line : Text) : Option Nat :=
  if Text.allBlank line then none else some (Text.byteSize (line.takeWhile Text.isBlank))

/-- One indentation is deeper than another; that of a blank line is the least deep. -/
def deeper : Option Nat → Option Nat → Bool
  | some n, some m => m < n
  | some _, none => true
  | none, _ => false

/-- What has been seen below a line: a service key, and the indentation of the nearest principal
key. -/
structure Seen where
  service : Bool
  principal : Option (Option Nat)
deriving DecidableEq

/-- A line holds the key of a service. -/
def isService (line : Text) : Bool := Text.startsWith "service:".toList (folded line)

/-- A line holds the key of a principal. -/
def isPrincipal (line : Text) : Bool := Text.startsWith "principal:".toList (folded line)

/-- A line separates documents. -/
def isMarker (line : Text) : Bool :=
  Text.startsWith "---".toList (folded line) || Text.startsWith "...".toList (folded line)

/-- Both keys have been seen. -/
def Seen.both (seen : Seen) : Bool := seen.service && seen.principal.isSome

/-- Whether the lines, read upward, put a service key and a principal key together. -/
def scan (seen : Seen) : List Text → Bool
  | [] => seen.both
  | line :: above =>
    let indent := indent? line
    let below := (seen.principal.map (deeper indent)).getD false
    let level := (seen.principal.map fun p => !deeper indent p).getD false
    let seen := { seen with service := seen.service || isService line }
    if isService line && below then true
    else if isPrincipal line then scan { seen with principal := some indent } above
    else if level && !(folded line).isEmpty then seen.both
    else if isMarker line then seen.both
    else scan seen above

end Yaml

/-! ## Languages -/

/-- The end of a text is where a service principal belongs. -/
def isContext (language : Language) (t : Text) : Bool :=
  let upward := (Text.lines t).reverse
  match language with
  | .json => scan jsonHit closesBlock (upward.map folded)
  | .terraform => scan terraformHit closesBlock (upward.map folded)
  | .typescript => scan typescriptHit typescriptStop (upward.map folded)
  | .python => scan pythonHit pythonStop (upward.map folded)
  | .yaml => Yaml.scan ⟨false, none⟩ upward

end Roster.Cursor
