import Roster.Text.ComposedData
import Roster.Text.Table

/-!
# Composed form

A letter with a mark can be one character or two. In the composed form of a text every such pair is
one character, and marks on the same letter stand in a fixed order.

The text is taken apart (`decomposed`), its marks are sorted (`sortMarks`), and pairs are put
together again (`compose`).
-/

namespace Roster.Text

namespace Composed

/-! ## Tables -/

/-- A pair of characters with its composed form. -/
structure Pair where
  first : Nat
  second : Nat
  whole : Nat
deriving Inhabited

/-- The pair of a word: the two code points with a plus sign between them, and the composed form
behind an equals sign. -/
def Pair.ofWord (word : Text) : Pair :=
  match splitOn '=' word with
  | [parts, whole] =>
    match splitOn '+' parts with
    | [first, second] =>
      ⟨natOfHexDigits first, natOfHexDigits second, natOfHexDigits whole⟩
    | _ => default
  | _ => default

/-- All pairs that have a composed form. -/
def pairs : Array Pair := ((words composedSource).map Pair.ofWord).toArray

/-- The classes of combining marks, in ascending order of the marks. -/
def markClasses : Array (CodeRange × Nat) :=
  ((words markClassSource).map fun word =>
    match splitOn '=' word with
    | [range, number] => (CodeRange.ofWord range, natOfDigits number)
    | _ => default).toArray

/-- The class of a character; zero for one that is no combining mark. -/
def markClass (c : Char) : Nat :=
  if c.toNat < 0x300 then 0
  else ((markClasses.find? fun e => e.1.holds c.toNat).map (·.2)).getD 0

/-! ## Syllables -/

/-- The first composed syllable; syllables are composed by rule. -/
def syllableBase : Nat := 0xAC00

/-- The first leading consonant, vowel and the place in front of the first trailing consonant. -/
def leadBase : Nat := 0x1100

/-- The first vowel. -/
def vowelBase : Nat := 0x1161

/-- The place in front of the first trailing consonant. -/
def trailBase : Nat := 0x11A7

/-- The syllable of a leading consonant and a vowel, or of a syllable without a trailing consonant
and such a consonant. -/
def syllable? (a b : Nat) : Option Nat :=
  if leadBase ≤ a && a < leadBase + 19 && vowelBase ≤ b && b < vowelBase + 21 then
    some (syllableBase + ((a - leadBase) * 21 + (b - vowelBase)) * 28)
  else if syllableBase ≤ a && a < syllableBase + 11172 && (a - syllableBase) % 28 = 0 &&
      trailBase < b && b < trailBase + 28 then
    some (a + (b - trailBase))
  else none

/-- The parts of a composed syllable. -/
def syllableParts (n : Nat) : List Nat :=
  let s := n - syllableBase
  let trail := s % 28
  [leadBase + s / 588, vowelBase + s % 588 / 28] ++ if trail = 0 then [] else [trailBase + trail]

/-! ## Taking apart and putting together -/

/-- The characters that a character is composed of; `depth` bounds how often a first part is taken
apart again. -/
def parts : (depth : Nat) → Nat → List Nat
  | 0, n => [n]
  | depth + 1, n =>
    if n < 0xC0 then [n]
    else if syllableBase ≤ n && n < syllableBase + 11172 then syllableParts n
    else
      match pairs.find? fun p => p.whole = n with
      | some p => parts depth p.first ++ [p.second]
      | none => [n]

/-- The text with every character taken apart. -/
def decomposed (t : Text) : Text := t.flatMap fun c => (parts 8 c.toNat).map Char.ofNat

/-- Puts a mark into marks that are sorted by class, behind those of its class. -/
def insertMark (c : Char) (marks : Text) : Text :=
  match marks with
  | [] => [c]
  | m :: rest => if markClass c < markClass m then c :: m :: rest else m :: insertMark c rest

/-- The text with the marks between two other characters sorted by class; `marks` are those behind
the last character. -/
def sortMarks (marks : Text) : Text → Text
  | [] => marks
  | c :: rest =>
    if markClass c = 0 then marks ++ c :: sortMarks [] rest
    else sortMarks (insertMark c marks) rest

/-- The composed form of two characters. -/
def whole? (a b : Char) : Option Char :=
  match syllable? a.toNat b.toNat with
  | some n => some (Char.ofNat n)
  | none =>
    (pairs.find? fun (p : Pair) => p.first = a.toNat && p.second = b.toNat).map
      fun p => Char.ofNat p.whole

/-- Puts a letter together with what follows it: `kept` are the marks, last first, that could not
be joined to it. -/
def composeFrom (letter : Char) (kept : Text) : Text → Text
  | [] => letter :: kept.reverse
  | c :: rest =>
    let blocked := match kept with
      | [] => false
      | m :: _ => markClass m = 0 || markClass c ≤ markClass m
    match if blocked then none else whole? letter c with
    | some letter => composeFrom letter kept rest
    | none =>
      if markClass c = 0 then letter :: kept.reverse ++ composeFrom c [] rest
      else composeFrom letter (c :: kept) rest

/-- The text with every pair put together that has a composed form; marks in front of the first
letter stay. -/
def compose : Text → Text
  | [] => []
  | c :: rest => if markClass c = 0 then composeFrom c [] rest else c :: compose rest

end Composed

/-- The composed form of a text. -/
def composed (t : Text) : Text :=
  Composed.compose (Composed.sortMarks [] (Composed.decomposed t))

end Roster.Text
