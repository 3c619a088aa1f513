import Roster.Number.Double
import Roster.Text.Basic

/-!
# Shortest decimal form

The decimal form of a double is the shortest one that reads back as that double; of several with
equally few digits it is the nearest, and of two equally near ones the one with an even last digit.

The numbers that read back as a double fill the interval between the midpoints to its neighbours;
the midpoints belong to it when its significand is even. The form is found on the coarsest decimal
grid that has a point in the interval.
-/

namespace Roster.Double

/-- The numbers that round to a magnitude, between two bounds counted in quarter units. -/
structure Interval where
  low : Nat
  middle : Nat
  high : Nat
  closed : Bool

/-- The interval of a magnitude other than zero. -/
def interval (units : Nat) : Interval :=
  let above := gap units
  let below := if units = Nat.pow 2 units.log2 && Nat.pow 2 53 ≤ units then above / 2 else above
  ⟨4 * units - 2 * below, 4 * units, 4 * units + 2 * above, (units / above) % 2 = 0⟩

/-- The scale on which `point * 10 ^ exponent` is compared with quarter units: both sides are
multiplied with the power of ten or of two that the other one is divided by. -/
def Interval.scaled (i : Interval) (exponent : Int) : Interval × Nat :=
  if exponent < 0 then
    let ten := Nat.pow 10 (-exponent).toNat
    (⟨i.low * ten, i.middle * ten, i.high * ten, i.closed⟩, 4 * one)
  else (i, 4 * one * Nat.pow 10 exponent.toNat)

/-- The point of the grid of multiples of `10 ^ exponent` that lies in the interval and is nearest
to its middle. -/
def Interval.point? (i : Interval) (exponent : Int) : Option Nat :=
  let (s, step) := i.scaled exponent
  let below := s.middle / step
  let above := below + 1
  let holds := fun point : Nat =>
    let x := point * step
    point ≠ 0 && (if s.closed then s.low ≤ x && x ≤ s.high else s.low < x && x < s.high)
  let toBelow := s.middle - below * step
  let toAbove := above * step - s.middle
  match holds below, holds above with
  | false, false => none
  | true, false => some below
  | false, true => some above
  | true, true =>
    if toBelow < toAbove || (toBelow = toAbove && below % 2 = 0) then some below else some above

/-- The coarsest grid with a point in the interval, tried from `exponent` downwards. -/
def Interval.coarsest (i : Interval) (exponent : Int) : (tries : Nat) → Nat × Int
  | 0 => (0, 0)
  | tries + 1 =>
    match i.point? exponent with
    | some point => (point, exponent)
    | none => i.coarsest (exponent - 1) tries

/-- An exponent of ten above that of the magnitude. -/
def exponentAbove (units : Nat) : Int :=
  if one ≤ units then (Text.ofNat (units / one)).length
  else 1 - (Text.ofNat (one / units)).length

/-- The digits of the shortest form as a whole number, and the power of ten it is multiplied
with. -/
def shortest (units : Nat) : Nat × Int :=
  (interval units).coarsest (exponentAbove units) 20

/-! ## Writing -/

/-- How a decimal form is laid out. -/
structure Layout where
  /-- The point stands among or after the digits up to so many digits in front of it. -/
  maxWhole : Int
  /-- So many zeros at most stand between the point and the first digit. -/
  maxZeros : Int

/-- Numbers from a hundred-thousandth up to below ten to the sixteenth are written out; the others
have an exponent of ten. -/
def layout : Layout := ⟨16, 4⟩

/-- The exponent of ten behind the digits of a number that is not written out. -/
def exponentText (e : Int) : Text := 'e' :: (if 0 < e then '+' :: Text.ofInt e else Text.ofInt e)

/-- The text of `digits * 10 ^ exponent`, always with a fraction or an exponent. -/
def write (digits : Nat) (exponent : Int) : Text :=
  let d := Text.ofNat digits
  let point := (d.length : Int) + exponent
  if 0 ≤ exponent && point ≤ layout.maxWhole then
    d ++ List.replicate exponent.toNat '0' ++ ".0".toList
  else if 0 < point && point ≤ layout.maxWhole then
    d.take point.toNat ++ '.' :: d.drop point.toNat
  else if -layout.maxZeros ≤ point && point ≤ 0 then
    "0.".toList ++ List.replicate (-point).toNat '0' ++ d
  else
    match d with
    | [only] => only :: exponentText (point - 1)
    | first :: rest => first :: '.' :: rest ++ exponentText (point - 1)
    | [] => []

/-- The decimal text of a double. -/
def toText (x : Double) : Text :=
  let magnitude :=
    if x.units = 0 then "0.0".toList
    else
      let (digits, exponent) := shortest x.units
      write digits exponent
  if x.negative then '-' :: magnitude else magnitude

end Roster.Double
