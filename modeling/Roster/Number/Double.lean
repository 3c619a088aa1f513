/-!
# Double-precision numbers

A finite double is a sign and a magnitude, counted in the smallest positive double `2 ^ (-1074)`.
Every finite magnitude is a whole number of these units, so arithmetic on magnitudes is exact and
each operation rounds once: to the nearest double, and to an even significand between two.
-/

namespace Roster

/-- A finite double: its sign and its magnitude in units of `2 ^ (-1074)`. -/
structure Double where
  negative : Bool
  units : Nat
deriving DecidableEq, Inhabited

namespace Double

/-- How many units make one. -/
def one : Nat := Nat.pow 2 1074

/-- The largest finite magnitude. -/
def largest : Nat := (Nat.pow 2 53 - 1) * Nat.pow 2 2045

/-- The distance from a magnitude to the next larger double. -/
def gap (units : Nat) : Nat :=
  if units < Nat.pow 2 53 then 1 else Nat.pow 2 (units.log2 - 52)

/-- The whole number nearest to `num / den`; of two, the even one. -/
def divNearest (num den : Nat) : Nat :=
  let q := num / den
  let r := num % den
  if 2 * r < den || (2 * r = den && q % 2 = 0) then q else q + 1

/-- The magnitude nearest to `num / den` units, unless that is beyond the largest. -/
def round? (num den : Nat) : Option Nat :=
  let step := gap (num / den)
  let units := divNearest num (den * step) * step
  if units ≤ largest then some units else none

/-- The double nearest to a whole number. -/
def ofNat? (n : Nat) : Option Double := (round? (n * one) 1).map (⟨false, ·⟩)

/-- The power of ten with exponent `k`, which has to be at most 308 to be finite. -/
def powerOfTen? (k : Nat) : Option Double := ofNat? (Nat.pow 10 k)

/-- The product, unless it is beyond the largest double. -/
def mul? (x y : Double) : Option Double :=
  (round? (x.units * y.units) one).map (⟨xor x.negative y.negative, ·⟩)

/-- The quotient by a number other than zero, unless it is beyond the largest double. -/
def div? (x y : Double) : Option Double :=
  (round? (x.units * one) y.units).map (⟨xor x.negative y.negative, ·⟩)

/-- The number with the other sign. -/
def neg (x : Double) : Double := { x with negative := !x.negative }

/-- Zero of either sign. -/
def isZero (x : Double) : Bool := x.units = 0

end Double

end Roster
