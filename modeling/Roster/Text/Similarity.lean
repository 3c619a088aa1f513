import Roster.Text.Basic

/-!
# Similarity of texts

Two texts are similar if they have many characters in common at nearly the same places. Similarity
is a fraction between zero and one, held as its numerator and denominator.

* `similarity` compares two texts.
* `similar` finds the texts that are similar to one, the most similar one last.
-/

namespace Roster.Text

/-- Takes the first character that equals `c`, is not taken yet and stands between two places. -/
def takeNear (c : Char) (first last : Nat) :
    (place : Nat) → List (Char × Bool) → Option (List (Char × Bool))
  | _, [] => none
  | place, (d, taken) :: rest =>
    if first ≤ place && place ≤ last && c = d && !taken then some ((d, true) :: rest)
    else (takeNear c first last (place + 1) rest).map ((d, taken) :: ·)

/-- The characters of a text, from a place on, that find their like in another one, and that one
with the characters that were taken. -/
def common (reach : Nat) : (place : Nat) → Text → List (Char × Bool) → Text × List (Char × Bool)
  | _, [], other => ([], other)
  | place, c :: rest, other =>
    match takeNear c (place - reach) (place + reach) 0 other with
    | some other =>
      let (shared, other) := common reach (place + 1) rest other
      (c :: shared, other)
    | none => common reach (place + 1) rest other

/-- How similar two texts are. -/
def similarity (a b : Text) : Nat × Nat :=
  if a.isEmpty && b.isEmpty then (1, 1)
  else
    let reach := max a.length b.length / 2 - 1
    let (shared, other) := common reach 0 a (b.map (·, false))
    let matched := (other.filter (·.2)).map (·.1)
    let m := shared.length
    let swapped := ((shared.zip matched).countP fun (c, d) => c ≠ d) / 2
    if m = 0 then (0, 1)
    else
      (m * m * b.length + m * m * a.length + (m - swapped) * a.length * b.length,
        3 * a.length * b.length * m)

/-- The first fraction is smaller than the second. -/
def isLess (a b : Nat × Nat) : Bool := a.1 * b.2 < b.1 * a.2

/-- Above this two texts are similar. -/
def similarAbove : Nat × Nat := (7, 10)

/-- The texts that are similar to `t`, the most similar one last. -/
def similar (t : Text) (others : List Text) : List Text :=
  let rated := (others.map fun o => (similarity t o, o)).filter fun (s, _) =>
    isLess similarAbove s
  (rated.mergeSort fun x y => !isLess y.1 x.1).map (·.2)

end Roster.Text
