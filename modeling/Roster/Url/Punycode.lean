import Roster.Text.Basic

/-!
# Punycode

A label of a domain name is written in ASCII alone: first its ASCII characters, then a hyphen, then
numbers that say which other characters stand where between them. A number is written in digits
with 36 values whose weights adapt to the numbers before.
-/

namespace Roster.Url.Punycode

/-! ## Digits -/

/-- A digit: the letters are those below 26, the decimal digits the others. -/
def digit (d : Nat) : Char :=
  if d < 26 then Char.ofNat ('a'.toNat + d) else Char.ofNat ('0'.toNat + (d - 26))

/-- The value of a digit, in either case. -/
def value? (c : Char) : Option Nat :=
  if Text.isAsciiLetter c then some (c.toLower.toNat - 'a'.toNat)
  else if Text.isDigit c then some (c.toNat - '0'.toNat + 26)
  else none

/-- The value from which on a digit is not the last one; `place` counts digits in steps of 36. -/
def threshold (place bias : Nat) : Nat :=
  if place ≤ bias then 1 else if bias + 26 ≤ place then 26 else place - bias

theorem threshold_pos (place bias : Nat) : 1 ≤ threshold place bias := by
  unfold threshold
  split
  · exact Nat.le_refl 1
  · split <;> omega

theorem threshold_le (place bias : Nat) : threshold place bias ≤ 26 := by
  unfold threshold
  split
  · omega
  · split <;> omega

/-- The number of digits, in steps of 36, that numbers of a size will have, and what is left. -/
def shrink (size : Nat) (steps : Nat) : Nat × Nat :=
  if 455 < size then shrink (size / 35) (steps + 36) else (size, steps)
termination_by size
decreasing_by omega

/-- The bias behind a number, of which there have been `count` so far. -/
def adapt (number count : Nat) (first : Bool) : Nat :=
  let size := if first then number / 700 else number / 2
  let (left, steps) := shrink (size + size / count) 0
  steps + 36 * left / (left + 38)

/-! ## Writing -/

/-- The digits of a number. -/
def digits (bias place number : Nat) : Text :=
  let t := threshold place bias
  if number < t then [digit number]
  else digit (t + (number - t) % (36 - t)) :: digits bias (place + 36) ((number - t) / (36 - t))
termination_by number
decreasing_by
  have := threshold_pos place bias
  have := threshold_le place bias
  calc (number - threshold place bias) / (36 - threshold place bias)
      ≤ number - threshold place bias := Nat.div_le_self _ _
    _ < number := by omega

/-- How far writing has come: what is written, the number in the making, the bias, and how many
characters have been placed. -/
structure Writing where
  written : Text
  number : Nat
  bias : Nat
  placed : Nat

/-- Passes one character of the label while those with code point `n` are placed. -/
def Writing.pass (basics n : Nat) (w : Writing) (c : Char) : Writing :=
  if c.toNat < n then { w with number := w.number + 1 }
  else if c.toNat = n then
    { written := w.written ++ digits w.bias 36 w.number, number := 0,
      bias := adapt w.number (w.placed + 1) (w.placed = basics), placed := w.placed + 1 }
  else w

/-- Places the characters with each code point of an ascending list; `low` is the first that has
not been placed. -/
def Writing.place (label : Text) (basics : Nat) : (low : Nat) → List Nat → Writing → Writing
  | _, [], w => w
  | low, n :: rest, w =>
    let w := { w with number := w.number + (n - low) * (w.placed + 1) }
    let w := label.foldl (Writing.pass basics n) w
    place label basics (n + 1) rest { w with number := w.number + 1 }

/-- The written form of a label. -/
def encode (label : Text) : Text :=
  let basics := label.filter fun c => c.toNat < 0x80
  let others := (label.map Char.toNat).filter (0x80 ≤ ·)
  let points := (others.mergeSort (· ≤ ·)).eraseDups
  let start : Writing :=
    ⟨if basics.isEmpty then [] else basics ++ ['-'], 0, 72, basics.length⟩
  (start.place label basics.length 0x80 points).written

/-! ## Reading -/

/-- Reads the digits of a number; answers it with the text behind it. -/
def number? (bias : Nat) : (place weight sum : Nat) → Text → Option (Nat × Text)
  | _, _, _, [] => none
  | place, weight, sum, c :: rest =>
    match value? c with
    | none => none
    | some d =>
      let sum := sum + d * weight
      let t := threshold place bias
      if d < t then some (sum, rest)
      else number? bias (place + 36) (weight * (36 - t)) sum rest

/-- Reads the numbers of a label and places their characters among those read so far; `n` and
`place` are the last code point and place. Each round reads a number. -/
def decodeRounds : (rounds n place bias : Nat) → Text → Text → Option Text
  | 0, _, _, _, _, _ => none
  | _ + 1, _, _, _, label, [] => some label
  | rounds + 1, n, place, bias, label, t =>
    match number? bias 36 1 0 t with
    | none => none
    | some (number, rest) =>
      let count := label.length + 1
      let n' := n + (place + number) / count
      let place' := (place + number) % count
      if 0x10FFFF < n' || (0xD800 ≤ n' && n' < 0xE000) then none
      else
        let label := label.take place' ++ Char.ofNat n' :: label.drop place'
        decodeRounds rounds n' (place' + 1) (adapt number count (place = 0)) label rest

/-- The label that a written form stands for. -/
def decode? (t : Text) : Option Text :=
  let tail := (t.reverse.takeWhile (· ≠ '-')).reverse
  let head := t.take (t.length - tail.length)
  let basics := head.dropLast
  if basics.all fun c => c.toNat < 0x80 then
    decodeRounds (tail.length + 1) 0x80 0 72 basics tail
  else none

end Roster.Url.Punycode
