import Roster.Index
import Roster.Number.Shortest

/-!
# JSON values and their text

A number is a whole number when it is written as one and fits a machine word, and a double
otherwise. The members of an object are listed in the order in which they are written; a value that
has been read lists them by ascending key, each key once.

Values are laid out over several lines with two spaces of indentation for each level. A string is
cut into fragments around the characters that JSON forces to be escaped. There are two forms that
differ in how a fragment is written.

* `Value.pretty` writes a fragment as it is.
* `Value.ascii` writes everything but printable ASCII as escapes of its UTF-16 code units, so the
  written file is the same bytes wherever it is read.
-/

namespace Roster.Json

/-! ## Values -/

/-- A JSON number. -/
inductive Number where
  | whole (n : Int)
  | double (x : Double)
deriving DecidableEq

/-- A JSON value. -/
inductive Value where
  | null
  | bool (b : Bool)
  | number (n : Number)
  | text (t : Text)
  | array (items : List Value)
  | object (members : List (Text × Value))

instance : Inhabited Value := ⟨.null⟩

/-! ## Characters -/

/-- The four hexadecimal digits of a UTF-16 code unit. -/
def unitDigits (unit : Nat) : Text :=
  [Text.hexDigit (unit / 4096 % 16), Text.hexDigit (unit / 256 % 16),
    Text.hexDigit (unit / 16 % 16), Text.hexDigit (unit % 16)]

/-- The escape of a UTF-16 code unit. -/
def unitEscape (unit : Nat) : Text := '\\' :: 'u' :: unitDigits unit

/-- The UTF-16 code units of a character: one, or a high and a low surrogate. -/
def units (c : Char) : List Nat :=
  let n := c.toNat
  if n < 0x10000 then [n]
  else [0xD800 + (n - 0x10000) / 0x400, 0xDC00 + (n - 0x10000) % 0x400]

/-- A character as escapes of its code units. -/
def escapeUnits (c : Char) : Text := (units c).flatMap unitEscape

/-- The escape that JSON demands for a character: for quotes, backslashes and controls. -/
def demanded? (c : Char) : Option Text :=
  if c = '"' then some ['\\', '"']
  else if c = '\\' then some ['\\', '\\']
  else if c = '\x08' then some ['\\', 'b']
  else if c = '\x0c' then some ['\\', 'f']
  else if c = '\n' then some ['\\', 'n']
  else if c = '\r' then some ['\\', 'r']
  else if c = '\t' then some ['\\', 't']
  else if c.toNat < 0x20 then some (unitEscape c.toNat)
  else none

/-- A printable character of ASCII. -/
def isPrintableAscii (c : Char) : Bool := ' ' ≤ c && c ≤ '~'

/-! ## Strings -/

/-- A fragment in ASCII form. `plain` is the run of printable characters that has been passed and is
not written yet, the last one first. -/
def asciiFragment (plain : Text) : Text → Text
  | [] => plain.reverse
  | c :: rest =>
    if isPrintableAscii c then asciiFragment (c :: plain) rest
    else plain.reverse ++ escapeUnits c ++ asciiFragment [] rest

/-- What is written for a fragment, whose last character is listed first; nothing for an empty
one. -/
def writeFragment (fragment : Text → Text) (pending : Text) : Text :=
  if pending.isEmpty then [] else fragment pending.reverse

/-- What stands between the quotes of a string literal: the demanded escapes, and between them the
fragments, each written by `fragment`. `pending` is the fragment that has been passed and is not
written yet, the last character first. -/
def contents (fragment : Text → Text) (pending : Text) : Text → Text
  | [] => writeFragment fragment pending
  | c :: rest =>
    match demanded? c with
    | some escape => writeFragment fragment pending ++ escape ++ contents fragment [] rest
    | none => contents fragment (c :: pending) rest

/-- A string literal whose fragments are written by `fragment`. -/
def quote (fragment : Text → Text) (t : Text) : Text := '"' :: contents fragment [] t ++ ['"']

/-! ## Strings without fragments -/

/-- A character of a string in plain form. -/
def plainChar (c : Char) : Text := (demanded? c).getD [c]

/-- A character of a string in ASCII form. -/
def asciiChar (c : Char) : Text :=
  (demanded? c).getD (if isPrintableAscii c then [c] else escapeUnits c)

/-- A string literal whose characters are written one by one by `char`. -/
def literal (char : Char → Text) (t : Text) : Text := '"' :: t.flatMap char ++ ['"']

/-! ## Layout -/

/-- The text of a number. -/
def Number.toText : Number → Text
  | .whole n => Text.ofInt n
  | .double x => x.toText

/-- A line end and the indentation of a level. -/
def newLine (level : Nat) : Text := '\n' :: List.replicate (2 * level) ' '

mutual

/-- A value at a level of indentation; the fragments of strings are written by `fragment`. -/
def Value.write (fragment : Text → Text) (level : Nat) : Value → Text
  | .null => "null".toList
  | .bool true => "true".toList
  | .bool false => "false".toList
  | .number n => n.toText
  | .text t => quote fragment t
  | .array [] => "[]".toList
  | .array (item :: items) =>
    '[' :: newLine (level + 1) ++ item.write fragment (level + 1) ++
      writeItems fragment (level + 1) items ++ newLine level ++ [']']
  | .object [] => "\x7b\x7d".toList
  | .object ((key, value) :: members) =>
    '{' :: newLine (level + 1) ++ quote fragment key ++ ": ".toList ++
      value.write fragment (level + 1) ++ writeMembers fragment (level + 1) members ++
      newLine level ++ ['}']

/-- The items behind the first one. -/
def writeItems (fragment : Text → Text) (level : Nat) : List Value → Text
  | [] => []
  | item :: items =>
    ',' :: newLine level ++ item.write fragment level ++ writeItems fragment level items

/-- The members behind the first one. -/
def writeMembers (fragment : Text → Text) (level : Nat) : List (Text × Value) → Text
  | [] => []
  | (key, value) :: members =>
    ',' :: newLine level ++ quote fragment key ++ ": ".toList ++ value.write fragment level ++
      writeMembers fragment level members

end

/-- The plain form of a value. -/
def Value.pretty (v : Value) : Text := v.write id 0

/-- The ASCII form of a value. -/
def Value.ascii (v : Value) : Text := v.write (asciiFragment []) 0

end Roster.Json
