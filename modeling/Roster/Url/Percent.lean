import Roster.Text.Utf8

/-!
# Percent-encoding

In a URL a character that may not stand for itself is written as its UTF-8 bytes, each as a percent
sign with two hexadecimal digits. Which characters these are depends on the part of the URL.
-/

namespace Roster.Url

/-! ## Which characters are encoded -/

/-- Controls and everything beyond ASCII; these are encoded in every part. -/
def isControl (c : Char) : Bool := c.toNat < 0x20 || 0x7E < c.toNat

/-- The characters that are encoded in a fragment. -/
def inFragment (c : Char) : Bool := isControl c || [' ', '"', '<', '>', '\x60'].contains c

/-- The characters that are encoded in a path. -/
def inPath (c : Char) : Bool := inFragment c || ['#', '?', '{', '}'].contains c

/-- The characters that are encoded in a user name or password. -/
def inUserInfo (c : Char) : Bool :=
  inPath c || ['/', ':', ';', '=', '@', '[', '\\', ']', '^', '|'].contains c

/-- The characters that are encoded in a query; an apostrophe only if the scheme is special. -/
def inQuery (special : Bool) (c : Char) : Bool :=
  isControl c || [' ', '"', '#', '<', '>'].contains c || (special && c = '\'')

/-! ## Encoding and decoding -/

/-- A hexadecimal digit with capital letters. -/
def capitalDigit (d : Nat) : Char := (Text.hexDigit d).toUpper

/-- The encoded form of a byte. -/
def encodeByte (b : Nat) : Text := ['%', capitalDigit (b / 16), capitalDigit (b % 16)]

/-- The text with the characters encoded that satisfy `p`. -/
def encode (p : Char → Bool) (t : Text) : Text :=
  t.flatMap fun c => if p c then (Text.utf8Char c).flatMap encodeByte else [c]

/-- The bytes that a text stands for. A percent sign without two digits stands for itself. -/
def decodeBytes : Text → List Nat
  | '%' :: a :: b :: rest =>
    match Text.hexValue? a, Text.hexValue? b with
    | some x, some y => (16 * x + y) :: decodeBytes rest
    | _, _ => '%'.toNat :: decodeBytes (a :: b :: rest)
  | c :: rest => Text.utf8Char c ++ decodeBytes rest
  | [] => []

end Roster.Url
