import Roster.Proofs.Text.Cutting

/-!
# Laws of lines

A text is cut into lines at its line feeds. Lines that are put together again, each with a line feed
behind it, are the text and one more line feed.

* `Text.ended` puts lines together.

**Theorem (`lines_ended_append`).** Lines that were put together are cut apart again, whatever
follows them.

**Theorem (`exists_ended`).** A text starts with its first lines, each with its line feed, as long
as a line is left behind them.
-/

namespace Roster.Text

/-- The lines, each with a line feed behind it. -/
def ended (ls : List Text) : Text := ls.flatMap (· ++ ['\n'])

@[simp] theorem ended_nil : ended [] = [] := rfl

@[simp] theorem ended_cons (l : Text) (ls : List Text) :
    ended (l :: ls) = l ++ '\n' :: ended ls := by
  simp [ended]

@[simp] theorem ended_append (ls ls' : List Text) : ended (ls ++ ls') = ended ls ++ ended ls' :=
  List.flatMap_append

/-! ## Cutting -/

@[simp] theorem lines_nil : lines [] = [[]] := rfl

@[simp] theorem lines_newline (t : Text) : lines ('\n' :: t) = [] :: lines t := by
  simp [lines, splitOn]

theorem lines_ne_nil (t : Text) : lines t ≠ [] := splitOn_ne_nil '\n' t

/-- The first line, and the lines behind it. -/
theorem lines_eq_cons (t : Text) : lines t = (lines t).headD [] :: (lines t).tail := by
  cases h : lines t with
  | nil => exact absurd h (lines_ne_nil t)
  | cons l ls => rfl

theorem lines_cons {c : Char} (hc : c ≠ '\n') (t : Text) :
    lines (c :: t) = (c :: (lines t).headD []) :: (lines t).tail := by
  have hfirst := lines_eq_cons t
  simp only [lines] at hfirst ⊢
  rw [splitOn, if_neg hc, hfirst]
  rfl

/-- A text without a line feed goes to the first line of what follows it. -/
theorem lines_append {front : Text} (h : '\n' ∉ front) (t : Text) :
    lines (front ++ t) = (front ++ (lines t).headD []) :: (lines t).tail := by
  induction front with
  | nil => exact lines_eq_cons t
  | cons c front ih =>
    rw [List.mem_cons, not_or] at h
    rw [List.cons_append, lines_cons (Ne.symm h.1), ih h.2]
    rfl

theorem lines_of_not_mem {t : Text} (h : '\n' ∉ t) : lines t = [t] := splitOn_of_not_mem h

theorem lines_append_newline {l : Text} (h : '\n' ∉ l) (t : Text) :
    lines (l ++ '\n' :: t) = l :: lines t := by
  rw [lines, splitOn_append_sep, splitOn_of_not_mem h]
  rfl

theorem not_mem_of_mem_lines {t l : Text} (h : l ∈ lines t) : '\n' ∉ l := by
  induction t generalizing l with
  | nil => simp_all
  | cons c t ih =>
    by_cases hc : c = '\n'
    · subst hc
      rw [lines_newline, List.mem_cons] at h
      rcases h with rfl | h
      · simp
      · exact ih h
    · rw [lines_eq_cons t] at ih
      rw [lines_cons hc, List.mem_cons] at h
      rcases h with rfl | h
      · intro hmem
        rcases List.mem_cons.1 hmem with heq | hmem
        · exact hc heq.symm
        · exact ih List.mem_cons_self hmem
      · exact ih (List.mem_cons_of_mem _ h)

theorem not_mem_of_mem_take_lines {t l : Text} {n : Nat} (h : l ∈ (lines t).take n) : '\n' ∉ l :=
  not_mem_of_mem_lines (List.mem_of_mem_take h)

theorem exists_first_line (t : Text) : ∃ rest, t = (lines t).headD [] ++ rest := by
  by_cases h : '\n' ∈ t
  · obtain ⟨l, rest, rfl, hl⟩ := List.eq_append_cons_of_mem h
    exact ⟨'\n' :: rest, by rw [lines_append_newline hl]; rfl⟩
  · exact ⟨[], by rw [lines_of_not_mem h]; simp⟩

theorem exists_of_lines_cons {t l : Text} {ls : List Text} (h : lines t = l :: ls) (hls : ls ≠ []) :
    ∃ rest, t = l ++ '\n' :: rest ∧ lines rest = ls := by
  by_cases hmem : '\n' ∈ t
  · obtain ⟨front, rest, rfl, hfront⟩ := List.eq_append_cons_of_mem hmem
    rw [lines_append_newline hfront] at h
    obtain ⟨rfl, rfl⟩ := List.cons.inj h
    exact ⟨rest, rfl, rfl⟩
  · rw [lines_of_not_mem hmem] at h
    exact absurd (List.cons.inj h).2.symm hls

/-! ## Putting together -/

/-- **Lines are cut apart again,** whatever follows them. -/
theorem lines_ended_append {ls : List Text} (h : ∀ l ∈ ls, '\n' ∉ l) (t : Text) :
    lines (ended ls ++ t) = ls ++ lines t := by
  induction ls with
  | nil => rfl
  | cons l ls ih =>
    have hl : '\n' ∉ l := h l List.mem_cons_self
    have hls : ∀ l' ∈ ls, '\n' ∉ l' := fun l' hl' => h l' (List.mem_cons_of_mem _ hl')
    rw [ended_cons, List.append_assoc, List.cons_append, lines_append_newline hl, ih hls,
      List.cons_append]

theorem count_ended {ls : List Text} (h : ∀ l ∈ ls, '\n' ∉ l) :
    (ended ls).count '\n' = ls.length := by
  induction ls with
  | nil => rfl
  | cons l ls ih =>
    have hl : l.count '\n' = 0 := List.count_eq_zero.2 (h l List.mem_cons_self)
    have hls := ih fun l' hl' => h l' (List.mem_cons_of_mem _ hl')
    rw [ended_cons, List.count_append, List.count_cons_self, hl, hls, List.length_cons]
    omega

/-- All lines of a text put together are the text and one more line feed. -/
theorem ended_lines (t : Text) : ended (lines t) = t ++ ['\n'] := by
  induction t with
  | nil => rfl
  | cons c t ih =>
    by_cases hc : c = '\n'
    · subst hc
      simp [ih]
    · rw [lines_eq_cons t, ended_cons] at ih
      rw [lines_cons hc, ended_cons, List.cons_append, ih, List.cons_append]

/-- **A text starts with its first lines,** as long as a line is left behind them. -/
theorem exists_ended {above below : List Text} (hbelow : below ≠ []) {t : Text}
    (h : lines t = above ++ below) : ∃ rest, t = ended above ++ rest ∧ lines rest = below := by
  induction above generalizing t with
  | nil => exact ⟨t, rfl, h⟩
  | cons l above ih =>
    obtain ⟨after, rfl, hafter⟩ := exists_of_lines_cons h (by simp [hbelow])
    obtain ⟨rest, rfl, hrest⟩ := ih hafter
    exact ⟨rest, by simp, hrest⟩

/-- A text that is put behind another one goes on with its last line. -/
theorem lines_append_of_last {t l : Text} {above : List Text} (h : lines t = above ++ [l])
    (t' : Text) : lines (t ++ t') = above ++ (l ++ (lines t').headD []) :: (lines t').tail := by
  have hfree : ∀ l' ∈ above ++ [l], '\n' ∉ l' := by
    rw [← h]
    exact fun _ => not_mem_of_mem_lines
  have hl : '\n' ∉ l := hfree l (by simp)
  have habove : ∀ l' ∈ above, '\n' ∉ l' := fun l' hl' => hfree l' (List.mem_append_left _ hl')
  have ht : t = ended above ++ l := by
    have hended := ended_lines t
    rw [h, ended_append, ended_cons, ended_nil, ← List.append_assoc] at hended
    exact (List.append_cancel_right hended).symm
  rw [ht, List.append_assoc, lines_ended_append habove, lines_append hl]

end Roster.Text
