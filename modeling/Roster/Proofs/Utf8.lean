import Mathlib.Tactic.SplitIfs
import Roster.Text.Utf8

/-!
# The order of bytes is the order of characters

Texts are compared by the code points of their characters. Their UTF-8 forms, compared byte by
byte, stand in the same order.

**Theorem (`utf8_lt_utf8`).** The bytes of a smaller text are smaller.

Two different characters already differ in their bytes before either of them ends, so what follows
them plays no part (`utf8Char_append_lt`).
-/

namespace Roster.Text

theorem utf8_cons (c : Char) (t : Text) : utf8 (c :: t) = utf8Char c ++ utf8 t :=
  List.flatMap_cons

theorem utf8Char_ne_nil (c : Char) : utf8Char c ≠ [] := by
  unfold utf8Char
  dsimp only
  split_ifs <;> exact List.cons_ne_nil _ _

theorem utf8Char_append_lt {c d : Char} (h : c < d) (x y : List Nat) :
    utf8Char c ++ x < utf8Char d ++ y := by
  have hlt : c.toNat < d.toNat := h
  unfold utf8Char
  generalize c.toNat = n at hlt
  generalize d.toNat = m at hlt
  dsimp only
  split_ifs <;> simp only [List.cons_append, List.nil_append, List.cons_lt_cons_iff] <;> omega

/-- **The order of bytes is the order of characters.** -/
theorem utf8_lt_utf8 {t u : Text} (h : t < u) : utf8 t < utf8 u := by
  induction t generalizing u with
  | nil =>
    cases u with
    | nil => exact absurd h (List.lt_irrefl [])
    | cons d u =>
      rw [utf8_cons]
      cases hbytes : utf8Char d with
      | nil => exact absurd hbytes (utf8Char_ne_nil d)
      | cons b bytes => exact List.nil_lt_cons b _
  | cons c t ih =>
    cases u with
    | nil => exact absurd h (List.not_lt_nil _)
    | cons d u =>
      rw [utf8_cons, utf8_cons]
      rcases List.cons_lt_cons_iff.1 h with hlt | ⟨rfl, hlt⟩
      · exact utf8Char_append_lt hlt _ _
      · exact List.append_left_lt (ih hlt)

end Roster.Text
