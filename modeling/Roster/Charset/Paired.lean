import Roster.Charset.HangulData
import Roster.Charset.KanjiData
import Roster.Charset.TraditionalData

/-!
# Character sets of one and two bytes

In these sets a byte is a character of its own or starts a pair. A pair that means nothing is one
replacement character; if its second byte is one of ASCII, that stands for itself behind it.

* `Paired.decode` reads bytes in such a set.
* `shiftJis`, `eucKr` and `big5` are the sets.
-/

namespace Roster.Charset

/-- A character set of one and two bytes: what single bytes mean, which bytes start a pair, and what
pairs mean. -/
structure Paired where
  single? : Nat → Option Char
  isLead : Nat → Bool
  pair? : (lead trail : Nat) → Option Text

/-- The text of bytes. -/
def Paired.decode (s : Paired) : List Nat → Text
  | [] => []
  | b :: rest =>
    match s.single? b with
    | some c => c :: s.decode rest
    | none =>
      if s.isLead b then
        match rest with
        | [] => [replacement]
        | trail :: after =>
          match s.pair? b trail with
          | some t => t ++ s.decode after
          | none =>
            if trail < 0x80 then replacement :: Char.ofNat trail :: s.decode after
            else replacement :: s.decode after
      else replacement :: s.decode rest

/-- The character of a byte of ASCII. -/
def ascii? (b : Nat) : Option Char := if b < 0x80 then some (Char.ofNat b) else none

/-- Narrow katakana by their place behind the first one. -/
def narrowKatakana (place : Nat) : Char := Char.ofNat (0xFF61 + place)

/-! ## Japanese -/

/-- The Japanese character with a number; some numbers are for private use. -/
def shiftJisChar? (number : Nat) : Option Char :=
  if 8836 ≤ number && number ≤ 10715 then some (Char.ofNat (0xE000 + (number - 8836)))
  else kanji.find? number

/-- The Japanese set Shift_JIS. -/
def shiftJis : Paired where
  single? b :=
    if b ≤ 0x80 then some (Char.ofNat b)
    else if 0xA1 ≤ b && b ≤ 0xDF then some (narrowKatakana (b - 0xA1))
    else none
  isLead b := (0x81 ≤ b && b ≤ 0x9F) || (0xE0 ≤ b && b ≤ 0xFC)
  pair? lead trail :=
    if (0x40 ≤ trail && trail ≤ 0x7E) || (0x80 ≤ trail && trail ≤ 0xFC) then
      (shiftJisChar? ((lead - if lead < 0xA0 then 0x81 else 0xC1) * 188 +
        (trail - if trail < 0x7F then 0x40 else 0x41))).map fun c => [c]
    else none

/-! ## Korean -/

/-- The Korean set EUC-KR. -/
def eucKr : Paired where
  single? := ascii?
  isLead b := 0x81 ≤ b && b ≤ 0xFE
  pair? lead trail :=
    if 0x41 ≤ trail && trail ≤ 0xFE then
      (hangul.find? ((lead - 0x81) * 190 + (trail - 0x41))).map fun c => [c]
    else none

/-! ## Traditional Chinese -/

/-- The text with a number: a character, or for a few numbers a letter with a mark. -/
def big5Text? (number : Nat) : Option Text :=
  if number = 1133 then some ['\u00CA', '\u0304']
  else if number = 1135 then some ['\u00CA', '\u030C']
  else if number = 1164 then some ['\u00EA', '\u0304']
  else if number = 1166 then some ['\u00EA', '\u030C']
  else (traditional.find? number).map fun c => [c]

/-- The Chinese set Big5. -/
def big5 : Paired where
  single? := ascii?
  isLead b := 0x81 ≤ b && b ≤ 0xFE
  pair? lead trail :=
    if (0x40 ≤ trail && trail ≤ 0x7E) || (0xA1 ≤ trail && trail ≤ 0xFE) then
      big5Text? ((lead - 0x81) * 157 + (trail - if trail < 0x7F then 0x40 else 0x62))
    else none

end Roster.Charset
