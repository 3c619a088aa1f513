import Roster.Charset.Paired
import Roster.Charset.SimplifiedData

/-!
# The Chinese national character set

Characters have one, two or four bytes. Those of two bytes are listed, and some of them are for
private use; those of four bytes are the code points that are left.

* `decodeGb18030` reads bytes in this set.
-/

namespace Roster.Charset

/-! ## Two bytes -/

/-- The code point for private use of two bytes. -/
def privatePair? (lead trail : Nat) : Option Nat :=
  let isHigh := 0xA1 ≤ trail
  if 0xAA ≤ lead && lead ≤ 0xAF && isHigh then some (0xE000 + (lead - 0xAA) * 94 + (trail - 0xA1))
  else if 0xF8 ≤ lead && isHigh then some (0xE234 + (lead - 0xF8) * 94 + (trail - 0xA1))
  else if 0xA2 ≤ lead && lead ≤ 0xA7 && !isHigh then
    some (0xE4C6 + (lead - 0xA1) * 96 + (trail - if trail < 0x7F then 0x40 else 0x41))
  else none

/-- The character of two bytes. -/
def nationalPair? (lead trail : Nat) : Option Char :=
  if (0x40 ≤ trail && trail ≤ 0x7E) || (0x80 ≤ trail && trail ≤ 0xFE) then
    match simplified.find?
        ((lead - 0x81) * 190 + (trail - if trail < 0x7F then 0x40 else 0x41)) with
    | some c => some c
    | none => (privatePair? lead trail).map Char.ofNat
  else none

/-! ## Four bytes -/

/-- The second or fourth byte of a character of four bytes. -/
def isNarrowByte (b : Nat) : Bool := 0x30 ≤ b && b ≤ 0x39

/-- The first or third byte of a character of four bytes. -/
def isWideByte (b : Nat) : Bool := 0x81 ≤ b && b ≤ 0xFE

/-- The code point with a number among those of four bytes. -/
def fourByteChar? (number : Nat) : Option Char :=
  if (39419 < number && number < 189000) || 1237575 < number then none
  else (fourByteRanges.filter (·.1 ≤ number)).getLast?.map fun (first, codePoint) =>
    Char.ofNat (codePoint + (number - first))

/-- The character of four bytes. -/
def fourBytes? (a b c d : Nat) : Option Char :=
  fourByteChar? ((((a - 0x81) * 10 + (b - 0x30)) * 126 + (c - 0x81)) * 10 + (d - 0x30))

/-! ## Texts -/

/-- The text of bytes. A byte that starts no character is a replacement character, and reading goes
on behind it; a character that the end cuts short is one replacement character. -/
def decodeGb18030 : List Nat → Text
  | [] => []
  | a :: rest =>
    if a < 0x80 then Char.ofNat a :: decodeGb18030 rest
    else if a = 0x80 then '€' :: decodeGb18030 rest
    else if !isWideByte a then replacement :: decodeGb18030 rest
    else
      match rest with
      | [] => [replacement]
      | b :: behindB =>
        if isNarrowByte b then
          match behindB with
          | [] => [replacement]
          | c :: behindC =>
            if !isWideByte c then replacement :: decodeGb18030 (b :: c :: behindC)
            else
              match behindC with
              | [] => [replacement]
              | d :: behindD =>
                if isNarrowByte d then
                  (fourBytes? a b c d).getD replacement :: decodeGb18030 behindD
                else replacement :: decodeGb18030 (b :: c :: d :: behindD)
        else
          match nationalPair? a b with
          | some found => found :: decodeGb18030 behindB
          | none =>
            if b < 0x80 then replacement :: decodeGb18030 (b :: behindB)
            else replacement :: decodeGb18030 behindB

end Roster.Charset
