import Roster.Html.EntityData
import Roster.Text.Table

/-!
# Character references

Behind an ampersand a character can be written by its name or by its number. A reference that is
not well formed stands for itself.

* `reference?` reads one reference behind its ampersand.
* `decode` replaces every reference of a text.
-/

namespace Roster.Html

/-! ## Names -/

/-- A named character: its name and what it stands for. -/
structure Entity where
  name : Text
  meaning : Text
deriving Inhabited

/-- The entity of a word: the name, and the code points behind the equals sign. -/
def Entity.ofWord (word : Text) : Entity where
  name := word.takeWhile (· ≠ '=')
  meaning :=
    (Text.splitOn '+' ((word.dropWhile (· ≠ '=')).drop 1)).map fun digits =>
      Char.ofNat (Text.natOfHexDigits digits)

/-- All named characters. -/
def entities : Array Entity := ((Text.words entitySource).map Entity.ofWord).toArray

/-- The names that need no semicolon. -/
def shortNames : List Text := Text.words shortEntitySource

/-- The named characters whose name may stand without a semicolon. -/
def shortEntities : Array Entity := entities.filter fun e => shortNames.contains e.name

/-- A letter or digit of ASCII. -/
def isAlphanumeric (c : Char) : Bool := Text.isAsciiLetter c || Text.isDigit c

/-- The character that stands for one that cannot be. -/
def replacement : Char := '\uFFFD'

/-- The whole name in front of a semicolon. -/
def wholeNamed? (t : Text) : Option (Text × Text) :=
  let name := t.takeWhile isAlphanumeric
  match t.dropWhile isAlphanumeric with
  | ';' :: after =>
    (entities.find? fun (e : Entity) => e.name = name).map fun e => (e.meaning, after)
  | _ => none

/-- The longest short name at the start of a text. -/
def longestShort? (t : Text) : Option Entity :=
  shortEntities.foldl (fun best (e : Entity) =>
    if Text.startsWith e.name t && (best.map (·.name.length)).getD 0 < e.name.length then some e
    else best) none

/-- What a name behind an ampersand stands for, with the text behind it: a whole name with its
semicolon, or else the longest short name. Inside an attribute a short name counts only if no
letter, digit or equals sign follows. -/
def named? (inAttribute : Bool) (t : Text) : Option (Text × Text) :=
  match wholeNamed? t with
  | some found => some found
  | none =>
    match longestShort? t with
    | none => none
    | some e =>
      let after := t.drop e.name.length
      let bound := after.head?.any fun c => isAlphanumeric c || c = '='
      if inAttribute && bound then none else some (e.meaning, after)

/-! ## Numbers -/

/-- The characters that the numbers from 0x80 to 0x9F stand for; none stands for itself. -/
def c1Meanings : List (Option Char) := [
  some '\u20AC', none, some '\u201A', some '\u0192', some '\u201E', some '\u2026', some '\u2020',
  some '\u2021', some '\u02C6', some '\u2030', some '\u0160', some '\u2039', some '\u0152', none,
  some '\u017D', none, none, some '\u2018', some '\u2019', some '\u201C', some '\u201D',
  some '\u2022', some '\u2013', some '\u2014', some '\u02DC', some '\u2122', some '\u0161',
  some '\u203A', some '\u0153', none, some '\u017E', some '\u0178']

/-- The character that a number stands for. -/
def numbered (n : Nat) : Char :=
  if n = 0 || 0x10FFFF < n || (0xD800 ≤ n && n ≤ 0xDFFF) then replacement
  else if 0x80 ≤ n && n ≤ 0x9F then ((c1Meanings[n - 0x80]?).join).getD (Char.ofNat n)
  else Char.ofNat n

/-- A number behind `#` with its digits, which may not be missing, and a semicolon, which may. -/
def digits? (isDigit : Char → Bool) (value : Text → Nat) (t : Text) : Option (Text × Text) :=
  let digits := t.takeWhile isDigit
  if digits.isEmpty then none
  else
    let after :=
      match t.dropWhile isDigit with
      | ';' :: after => after
      | after => after
    some ([numbered (value digits)], after)

/-! ## References -/

/-- What the reference behind an ampersand stands for, with the text behind it. -/
def reference? (inAttribute : Bool) (t : Text) : Option (Text × Text) :=
  match t with
  | '#' :: 'x' :: rest => digits? Text.isHexDigit Text.natOfHexDigits rest
  | '#' :: 'X' :: rest => digits? Text.isHexDigit Text.natOfHexDigits rest
  | '#' :: rest => digits? Text.isDigit Text.natOfDigits rest
  | _ => named? inAttribute t

/-- Replaces the references of a text; each round passes a character at least. -/
def decodeRounds (inAttribute : Bool) : (rounds : Nat) → Text → Text
  | 0, t => t
  | _ + 1, [] => []
  | rounds + 1, '&' :: rest =>
    match reference? inAttribute rest with
    | some (meaning, after) => meaning ++ decodeRounds inAttribute rounds after
    | none => '&' :: decodeRounds inAttribute rounds rest
  | rounds + 1, c :: rest => c :: decodeRounds inAttribute rounds rest

/-- The text with its references replaced. -/
def decode (inAttribute : Bool) (t : Text) : Text := decodeRounds inAttribute t.length t

end Roster.Html
