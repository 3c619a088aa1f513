import Roster.Charset.Chinese
import Roster.Charset.Japanese
import Roster.Charset.SingleByteData
import Roster.Text.Table
import Roster.Text.Utf8

/-!
# Character sets

What bytes mean as a text depends on the character set. A mark at the start of the bytes decides
it; without one the label that came with the bytes does, and UTF-8 is meant by any other label.
Bytes that mean nothing become replacement characters.

* `Charset.ofLabel?` finds the character set that a label means.
* `Charset.decode` reads bytes as a text.
-/

namespace Roster

/-- A way to read bytes as a text. -/
inductive Charset where
  | utf8
  | utf16 (bigEndian : Bool)
  | singleByte (s : Charset.SingleByte)
  | paired (s : Charset.Paired)
  | eucJp
  | iso2022Jp
  | gb18030
  | privateUse
  | unreadable

namespace Charset

/-! ## Labels -/

/-- The labels of the character sets that are not made of single bytes. -/
def labels : List (Charset × List String) := [
  (.utf8, ["unicode-1-1-utf-8 unicode11utf8 unicode20utf8 utf-8 utf8 x-unicode20utf8"]),
  (.utf16 true, ["unicodefffe utf-16be"]),
  (.utf16 false, ["csunicode iso-10646-ucs-2 ucs-2 unicode unicodefeff utf-16 utf-16le"]),
  (.paired shiftJis, ["csshiftjis ms932 ms_kanji shift-jis shift_jis sjis windows-31j x-sjis"]),
  (.paired eucKr, ["cseuckr csksc56011987 euc-kr iso-ir-149 korean ks_c_5601-1987 ks_c_5601-1989",
    "ksc5601 ksc_5601 windows-949"]),
  (.paired big5, ["big5 big5-hkscs cn-big5 csbig5 x-x-big5"]),
  (.eucJp, ["cseucpkdfmtjapanese euc-jp x-euc-jp"]),
  (.iso2022Jp, ["csiso2022jp iso-2022-jp"]),
  (.gb18030, ["chinese csgb2312 csiso58gb231280 gb2312 gb_2312 gb_2312-80 gbk iso-ir-58 x-gbk",
    "gb18030"]),
  (.privateUse, ["x-user-defined"]),
  (.unreadable, ["csiso2022kr hz-gb-2312 iso-2022-cn iso-2022-cn-ext iso-2022-kr replacement"])]

/-- White space around a label. -/
def isPadding (c : Char) : Bool := [' ', '\t', '\n', '\x0C', '\r'].contains c

/-- The character set that a label means. -/
def ofLabel? (label : Text) : Option Charset :=
  let label := Text.asciiLower (Text.dropEndWhile isPadding (label.dropWhile isPadding))
  let means (source : List String) : Bool := (Text.words source).contains label
  match labels.find? (means ·.2) with
  | some (charset, _) => some charset
  | none => (singleBytes.find? (means ·.labels)).map .singleByte

/-! ## Single bytes -/

/-- The text of bytes in a set of one byte. -/
def decodeSingle (s : SingleByte) (bytes : List Nat) : Text :=
  let upper := s.upper.flatMap String.toList
  bytes.map fun b => if b < 0x80 then Char.ofNat b else upper.getD (b - 0x80) replacement

/-- The text of bytes whose upper half means characters for private use. -/
def decodePrivate (bytes : List Nat) : Text :=
  bytes.map fun b => Char.ofNat (if b < 0x80 then b else 0xF700 + b)

/-! ## UTF-16 -/

/-- The units of bytes; a byte that is left over is none. -/
def units (bigEndian : Bool) : List Nat → List (Option Nat)
  | [] => []
  | [_] => [none]
  | a :: b :: rest =>
    some (if bigEndian then 256 * a + b else 256 * b + a) :: units bigEndian rest

/-- A unit that starts a pair. -/
def isHigh (u : Nat) : Bool := 0xD800 ≤ u && u < 0xDC00

/-- A unit that ends a pair. -/
def isLow (u : Nat) : Bool := 0xDC00 ≤ u && u < 0xE000

/-- The text of units. -/
def ofUnits : List (Option Nat) → Text
  | some u :: some v :: rest =>
    if isHigh u && isLow v then
      Char.ofNat (0x10000 + 0x400 * (u - 0xD800) + (v - 0xDC00)) :: ofUnits rest
    else (if isHigh u || isLow u then replacement else Char.ofNat u) :: ofUnits (some v :: rest)
  | [some u, none] => if isHigh u then [replacement] else [Char.ofNat u, replacement]
  | some u :: rest => (if isHigh u || isLow u then replacement else Char.ofNat u) :: ofUnits rest
  | none :: rest => replacement :: ofUnits rest
  | [] => []

/-! ## All character sets -/

/-- The text of bytes in a character set. -/
def read (charset : Charset) (bytes : List Nat) : Text :=
  match charset with
  | .utf8 => Text.ofUtf8 bytes
  | .utf16 bigEndian => ofUnits (units bigEndian bytes)
  | .singleByte s => decodeSingle s bytes
  | .paired s => s.decode bytes
  | .eucJp => decodeEucJp bytes
  | .iso2022Jp => decodeIso2022Jp bytes
  | .gb18030 => decodeGb18030 bytes
  | .privateUse => decodePrivate bytes
  | .unreadable => if bytes.isEmpty then [] else [replacement]

/-- The character set that a mark at the start of bytes tells, and the bytes behind it. -/
def marked? : List Nat → Option (Charset × List Nat)
  | 0xEF :: 0xBB :: 0xBF :: rest => some (.utf8, rest)
  | 0xFE :: 0xFF :: rest => some (.utf16 true, rest)
  | 0xFF :: 0xFE :: rest => some (.utf16 false, rest)
  | _ => none

/-- The text of bytes that came with a label. -/
def decode (label? : Option Text) (bytes : List Nat) : Text :=
  match marked? bytes with
  | some (charset, rest) => read charset rest
  | none => read ((label?.bind ofLabel?).getD .utf8) bytes

/-! ## Content types -/

/-- The value of a parameter, without quotes around it. -/
def unquoted : Text → Text
  | '"' :: t => t.takeWhile (· ≠ '"')
  | t => t

/-- The label in a content type: its parameter for the character set. -/
def label? (contentType : Text) : Option Text :=
  match Text.splitOn ';' contentType with
  | kind :: parameters =>
    if kind.contains '/' then
      parameters.findSome? fun p =>
        let (name, value) := (p.dropWhile isPadding).span (· ≠ '=')
        if Text.asciiLower name = "charset".toList then
          some (unquoted (Text.dropEndWhile isPadding (value.drop 1)))
        else none
    else none
  | [] => none

end Charset

end Roster
