import Roster.Text.Composed
import Roster.Url.Basic
import Roster.Url.Domain.MappingData
import Roster.Url.Domain.ScriptData
import Roster.Url.Punycode

/-!
# Domain names

The name of a host is written in ASCII. Its characters are replaced by their usual forms, the name
is composed, and every label between its dots that has other characters than those of ASCII is
written in punycode. A label has to be one that could have been meant: `isSound` looks at its
characters, `joinsWell` at signs that join letters, and `runsWell` at the direction of writing.
-/

namespace Roster.Url.Domain

/-! ## Replacing characters -/

/-- The characters that stand for themselves. -/
def kept : Array Text.CodeRange := Text.ranges keptSource

/-- The characters that are dropped. -/
def dropped : Array Text.CodeRange := Text.ranges droppedSource

/-- Characters that are replaced: a range, its step, and what its first character becomes. -/
structure Replacement where
  range : Text.CodeRange
  step : Nat
  target : List Nat
deriving Inhabited

/-- The replacement of a word. -/
def Replacement.ofWord (word : Text) : Replacement :=
  match Text.splitOn '=' word with
  | [codes, target] =>
    let (range, step) := match Text.splitOn '/' codes with
      | [range, step] => (range, Text.natOfDigits step)
      | _ => (codes, 1)
    ⟨.ofWord range, step, (Text.splitOn '+' target).map Text.natOfHexDigits⟩
  | _ => default

/-- All replacements. -/
def replacements : Array Replacement :=
  ((Text.words replacedSource).map Replacement.ofWord).toArray

/-- What the replacement makes of a character. -/
def Replacement.image? (r : Replacement) (n : Nat) : Option Text :=
  if r.range.holds n && (n - r.range.first) % r.step = 0 then
    some (r.target.map fun m => Char.ofNat (m + (n - r.range.first)))
  else none

/-- What a character of a domain name becomes; some may not occur. -/
def replace? (c : Char) : Option Text :=
  match replacements.findSome? (·.image? c.toNat) with
  | some t => some t
  | none =>
    if Text.inRanges kept c then some [c]
    else if Text.inRanges dropped c then some []
    else none

/-! ## Characters of a label -/

/-- Characters of ASCII that no host may hold. -/
def isForbidden (c : Char) : Bool :=
  c.toNat ≤ 0x20 || c.toNat = 0x7F ||
    ['%', '#', '/', ':', '<', '>', '?', '@', '[', '\\', ']', '^', '|'].contains c

/-- Combining marks. -/
def marks : Array Text.CodeRange := Text.ranges markSource

/-- The label holds only characters that stand for themselves, is composed, and does not start with
a mark. -/
def isSound (label : Text) : Bool :=
  label.all (fun c => Text.inRanges kept c && (replacements.findSome? (·.image? c.toNat)).isNone) &&
    Text.composed label = label && !(label.head?.any (Text.inRanges marks))

/-! ## Signs that join letters -/

/-- Characters that join those on both sides. -/
def dual : Array Text.CodeRange := Text.ranges dualJoiningSource

/-- Characters that join the one behind them. -/
def forward : Array Text.CodeRange := Text.ranges leftJoiningSource

/-- Characters that join the one in front of them. -/
def backward : Array Text.CodeRange := Text.ranges rightJoiningSource

/-- Characters that those around them join across. -/
def across : Array Text.CodeRange := Text.ranges transparentSource

/-- The sign that keeps letters apart. -/
def nonJoiner : Char := '\u200C'

/-- The sign that joins letters. -/
def joiner : Char := '\u200D'

/-- The class of marks that take the vowel from a consonant. -/
def vowelKiller : Nat := 9

/-- The sign may stand between `before`, last character first, and `after`. -/
def joinsHere (sign : Char) (before after : Text) : Bool :=
  before.head?.any (fun c => Text.Composed.markClass c = vowelKiller) ||
    (sign = nonJoiner &&
      (before.dropWhile (Text.inRanges across)).head?.any
        (fun c => Text.inRanges forward c || Text.inRanges dual c) &&
      (after.dropWhile (Text.inRanges across)).head?.any
        (fun c => Text.inRanges backward c || Text.inRanges dual c))

/-- Every sign that joins letters or keeps them apart stands where it has an effect; `before` is
what has been passed, last character first. -/
def joinsWell (before : Text) : Text → Bool
  | [] => true
  | c :: rest =>
    (if c = nonJoiner || c = joiner then joinsHere c before rest else true) &&
      joinsWell (c :: before) rest

/-! ## Direction -/

/-- How a character takes part in the direction of writing. -/
inductive Direction where
  | leftToRight
  | rightToLeft
  | arabicLetter
  | arabicNumber
  | europeanNumber
  | neutral
  | mark
deriving DecidableEq

/-- The tables of the directions; a character in none of them is written from left to right. -/
def directions : List (Direction × Array Text.CodeRange) := [
  (.rightToLeft, Text.ranges rightToLeftSource), (.arabicLetter, Text.ranges arabicLetterSource),
  (.arabicNumber, Text.ranges arabicNumberSource),
  (.europeanNumber, Text.ranges europeanNumberSource),
  (.neutral, Text.ranges (europeanSeparatorSource ++ commonSeparatorSource ++
    europeanTerminatorSource ++ otherNeutralSource ++ boundaryNeutralSource)),
  (.mark, Text.ranges nonSpacingMarkSource)]

/-- The direction of a character. -/
def Direction.of (c : Char) : Direction :=
  ((directions.find? fun d => Text.inRanges d.2 c).map (·.1)).getD .leftToRight

/-- A direction that makes the whole name one in which direction matters. -/
def Direction.isRight (d : Direction) : Bool :=
  d = .rightToLeft || d = .arabicLetter || d = .arabicNumber

/-- The characters of a label run in one direction: it starts with a letter, and ends with a letter
or number, of that direction. -/
def runsWell (label : Text) : Bool :=
  let ds := label.map Direction.of
  let last := ((ds.reverse.dropWhile (· = .mark)).head?).getD .mark
  match ds.head? with
  | none => true
  | some .leftToRight =>
    ds.all (fun d => !d.isRight) && (last = .leftToRight || last = .europeanNumber)
  | some d =>
    (d = .rightToLeft || d = .arabicLetter) && !ds.contains .leftToRight &&
      (last.isRight || last = .europeanNumber) &&
      !(ds.contains .europeanNumber && ds.contains .arabicNumber)

/-! ## Names -/

/-- What marks a label in punycode. -/
def punycodeMark : Text := "xn--".toList

/-- The characters of ASCII. -/
def isAscii (t : Text) : Bool := t.all fun c => c.toNat < 0x80

/-- The label that is meant by a written one. -/
def meant? (label : Text) : Option Text :=
  match Text.after? punycodeMark label with
  | none => some label
  | some written =>
    match Punycode.decode? written with
    | some meant =>
      if !isAscii meant && Punycode.encode meant = written then some meant else none
    | none => none

/-- A label in ASCII. -/
def written (label : Text) : Text :=
  if isAscii label then label else punycodeMark ++ Punycode.encode label

/-- The ASCII form of a domain name; none for a text that is no domain name. -/
def ascii? (name : Text) : Option Text := do
  let pieces ← name.mapM replace?
  let labels ← (Text.splitOn '.' (Text.composed pieces.flatten)).mapM meant?
  let directed := labels.any fun l => l.any fun c => (Direction.of c).isRight
  let sound := labels.all fun l =>
    isSound l && joinsWell [] l && (!directed || runsWell l) && !l.any isForbidden
  if sound then some (Text.joinWith ['.'] (labels.map written)) else none

/-- The ASCII form of a domain name. -/
def toAscii (name : Text) : Except Fault Text :=
  match ascii? name with
  | some t => .ok t
  | none => .error .badDomain

end Roster.Url.Domain
