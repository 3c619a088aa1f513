import Roster.Cursor
import Roster.Proofs.Text.Lines

/-!
# What is looked at in front of a cursor

The window in front of a cursor is a piece of the document: it starts with a line and ends at the
cursor. What stands in front of it or behind it does not matter.

**Theorem (`textBefore_ended`).** With some lines put in front of any text, a cursor on the line
behind them looks at the last of those lines and at the start of the text.

**Theorem (`window_is_local`).** The window is the piece of the document that ends at the cursor and
starts forty lines above it. It stays the same whatever stands behind the cursor, and if lines are
put in front of a document whose first line it does not reach.

Every document is cut in front of the line of the cursor (`exists_above`), so all of this is about
texts of the form that `textBefore_ended` has.
-/

namespace Roster.Cursor

/-- The cursor stands on a line of the document and not behind the end of it. -/
def Inside (document : Text) (line column : Nat) : Prop :=
  ∃ l, (Text.lines document)[line]? = some l ∧ column ≤ l.length

/-- **What is looked at behind lines that were put together.** -/
theorem textBefore_ended {above : List Text} (h : ∀ l ∈ above, '\n' ∉ l) (rest : Text)
    (column : Nat) :
    textBefore (Text.ended above ++ rest) above.length column =
      Text.ended (above.drop (above.length - linesAbove)) ++
        ((Text.lines rest).headD []).take column := by
  have hlines := Text.lines_ended_append h rest
  have hrest := Text.lines_eq_cons rest
  have hlast : min above.length ((Text.lines (Text.ended above ++ rest)).length - 1) =
      above.length := by
    rw [hlines, hrest]
    simp
  unfold textBefore
  simp only [hlast]
  rw [hlines, List.take_left, Text.ended, hrest]
  simp

/-- Lines further up do not matter if the window does not reach the first of those below them. -/
theorem textBefore_ended_append {front above : List Text} (h : ∀ l ∈ front ++ above, '\n' ∉ l)
    (habove : linesAbove ≤ above.length) (rest : Text) (column : Nat) :
    textBefore (Text.ended (front ++ above) ++ rest) (front ++ above).length column =
      textBefore (Text.ended above ++ rest) above.length column := by
  have hsum : (front ++ above).length - linesAbove =
      front.length + (above.length - linesAbove) := by
    rw [List.length_append]
    omega
  rw [textBefore_ended h, hsum, List.drop_length_add_append,
    textBefore_ended fun l hl => h l (List.mem_append_right _ hl)]

theorem textBefore_clamp (document : Text) (line column : Nat) :
    textBefore document line column =
      textBefore document (min line ((Text.lines document).length - 1)) column := by
  simp [textBefore]

/-! ## Windows of documents -/

/-- The line of a cursor: the last one, if it is behind that. -/
def lineOf (document : Text) (line : Nat) : Nat := min line ((Text.lines document).length - 1)

theorem lineOf_lt (document : Text) (line : Nat) :
    lineOf document line < (Text.lines document).length := by
  have hpos : 0 < (Text.lines document).length := List.length_pos_iff.2 (Text.lines_ne_nil document)
  unfold lineOf
  omega

theorem lineOf_of_lt {document : Text} {line : Nat} (h : line < (Text.lines document).length) :
    lineOf document line = line := by
  unfold lineOf
  omega

/-- With the first lines of a document in front of any text, a cursor on the line behind them looks at
the last of those lines and at the start of the text. -/
theorem textBefore_take {document : Text} {line : Nat} (h : line ≤ (Text.lines document).length)
    (rest : Text) (column : Nat) :
    textBefore (Text.ended ((Text.lines document).take line) ++ rest) line column =
      Text.ended (((Text.lines document).take line).drop (line - linesAbove)) ++
        ((Text.lines rest).headD []).take column := by
  have hfree : ∀ l ∈ (Text.lines document).take line, '\n' ∉ l := fun _ => Text.not_mem_of_mem_take_lines
  have hwindow := textBefore_ended hfree rest column
  rwa [List.length_take_of_le h] at hwindow

theorem exists_above {document : Text} {line : Nat} (h : line < (Text.lines document).length) :
    ∃ rest, document = Text.ended ((Text.lines document).take line) ++ rest ∧
      Text.lines rest = (Text.lines document).drop line := by
  have hbelow : (Text.lines document).drop line ≠ [] := by
    rw [ne_eq, List.drop_eq_nil_iff]
    omega
  exact Text.exists_ended hbelow (List.take_append_drop line _).symm

theorem exists_window (document : Text) (line column : Nat) :
    ∃ l rest, (Text.lines document)[lineOf document line]? = some l ∧
      document = Text.ended ((Text.lines document).take (lineOf document line)) ++ (l ++ rest) ∧
      textBefore document line column =
        Text.ended (((Text.lines document).take (lineOf document line)).drop
          (lineOf document line - linesAbove)) ++ l.take column := by
  have hlt := lineOf_lt document line
  obtain ⟨below, hdocument, hbelow⟩ := exists_above hlt
  obtain ⟨rest, hrest⟩ := Text.exists_first_line below
  have hwindow := textBefore_take (Nat.le_of_lt hlt) below column
  rw [← hdocument] at hwindow
  refine ⟨(Text.lines below).headD [], rest, ?_, ?_, ?_⟩
  · rw [hbelow, List.drop_eq_getElem_cons hlt, List.getElem?_eq_getElem hlt]
    rfl
  · rw [← hrest, ← hdocument]
  · rw [textBefore_clamp, ← hwindow, lineOf]

theorem ended_take (ls : List Text) (last : Nat) :
    Text.ended (ls.take (last - linesAbove)) ++
      Text.ended ((ls.take last).drop (last - linesAbove)) = Text.ended (ls.take last) := by
  have htake : (ls.take last).take (last - linesAbove) = ls.take (last - linesAbove) := by
    rw [List.take_take, Nat.min_eq_left (Nat.sub_le _ _)]
  rw [← htake, ← Text.ended_append, List.take_append_drop]

theorem window_splits (document : Text) (line column : Nat) :
    ∃ behind, document =
      Text.ended ((Text.lines document).take (lineOf document line - linesAbove)) ++
        textBefore document line column ++ behind := by
  obtain ⟨l, rest, -, hdocument, hwindow⟩ := exists_window document line column
  refine ⟨l.drop column ++ rest, ?_⟩
  calc document
      = Text.ended ((Text.lines document).take (lineOf document line)) ++ (l ++ rest) := hdocument
    _ = Text.ended ((Text.lines document).take (lineOf document line)) ++
        (l.take column ++ (l.drop column ++ rest)) := by
      rw [← List.append_assoc (l.take column), List.take_append_drop]
    _ = _ := by
      rw [← ended_take, hwindow]
      simp only [List.append_assoc]

theorem count_textBefore (document : Text) (line column : Nat) :
    (textBefore document line column).count '\n' =
      lineOf document line - (lineOf document line - linesAbove) := by
  obtain ⟨l, rest, hl, -, hwindow⟩ := exists_window document line column
  have hlt := lineOf_lt document line
  have hfree : '\n' ∉ l := Text.not_mem_of_mem_lines (List.mem_of_getElem? hl)
  have hlast : (l.take column).count '\n' = 0 :=
    List.count_eq_zero.2 fun hmem => hfree (List.mem_of_mem_take hmem)
  have hfree' : ∀ l' ∈ ((Text.lines document).take (lineOf document line)).drop
      (lineOf document line - linesAbove), '\n' ∉ l' := fun _ hl' =>
    Text.not_mem_of_mem_take_lines (List.mem_of_mem_drop hl')
  have habove := Text.count_ended hfree'
  rw [hwindow, List.count_append, habove, hlast, List.length_drop, List.length_take]
  omega

theorem getLast?_lines_textBefore (document : Text) (line column : Nat) :
    ∃ l, (Text.lines document)[lineOf document line]? = some l ∧
      (Text.lines (textBefore document line column)).getLast? =
        some (l.take (min column l.length)) := by
  obtain ⟨l, rest, hl, -, hwindow⟩ := exists_window document line column
  have hfree : '\n' ∉ l := Text.not_mem_of_mem_lines (List.mem_of_getElem? hl)
  have hlast : '\n' ∉ l.take column := fun hmem => hfree (List.mem_of_mem_take hmem)
  refine ⟨l, hl, ?_⟩
  rw [hwindow, Text.lines_ended_append, Text.lines_of_not_mem hlast, List.getLast?_concat,
    ← List.take_eq_take_min]
  exact fun l' hl' => Text.not_mem_of_mem_take_lines (List.mem_of_mem_drop hl')

/-! ## Changes of the document -/

theorem textBefore_of_changed_behind {document : Text} {line column : Nat}
    (h : Inside document line column) (behind : Text) :
    textBefore (Text.ended ((Text.lines document).take (line - linesAbove)) ++
      textBefore document line column ++ behind) line column = textBefore document line column := by
  obtain ⟨l, hl, hcolumn⟩ := h
  obtain ⟨l', rest, hl', -, hwindow⟩ := exists_window document line column
  have hlt : line < (Text.lines document).length := (List.getElem?_eq_some_iff.1 hl).1
  rw [lineOf_of_lt hlt] at hl' hwindow
  obtain rfl : l = l' := Option.some.inj (hl.symm.trans hl')
  have hfree : '\n' ∉ l.take column := fun hmem =>
    Text.not_mem_of_mem_lines (List.mem_of_getElem? hl) (List.mem_of_mem_take hmem)
  have hstart : ((Text.lines (l.take column ++ behind)).headD []).take column = l.take column := by
    rw [Text.lines_append hfree, List.headD_cons, List.take_left']
    exact List.length_take_of_le hcolumn
  have hchanged := textBefore_take (Nat.le_of_lt hlt) (l.take column ++ behind) column
  rw [hstart, ← ended_take] at hchanged
  rw [hwindow]
  simpa only [List.append_assoc] using hchanged

/-- Lines in front of the document do not matter if the window does not reach its first line. -/
theorem textBefore_of_longer {document front : Text} {line : Nat}
    (hline : line < (Text.lines document).length) (habove : linesAbove ≤ line)
    (hfront : front.getLast? = some '\n') (column : Nat) :
    textBefore (front ++ document) (line + front.count '\n') column =
      textBefore document line column := by
  obtain ⟨start, rfl⟩ := List.getLast?_eq_some_iff.1 hfront
  obtain ⟨below, hdocument, -⟩ := exists_above hline
  rw [← Text.ended_lines start]
  have hlength : ((Text.lines document).take line).length = line :=
    List.length_take_of_le (Nat.le_of_lt hline)
  have hmoved : line + (Text.ended (Text.lines start)).count '\n' =
      (Text.lines start ++ (Text.lines document).take line).length := by
    rw [Text.count_ended fun _ => Text.not_mem_of_mem_lines, List.length_append, hlength,
      Nat.add_comm]
  have hfree : ∀ l ∈ Text.lines start ++ (Text.lines document).take line, '\n' ∉ l := by
    intro l hl
    rcases List.mem_append.1 hl with hl | hl
    · exact Text.not_mem_of_mem_lines hl
    · exact Text.not_mem_of_mem_take_lines hl
  have hsame := textBefore_ended_append hfree (by rw [hlength]; exact habove) below column
  rwa [← hmoved, Text.ended_append, List.append_assoc, ← hdocument, hlength] at hsame

/-- **The window is a piece of the document that ends at the cursor.** Of `n` lines the cursor is on
the line `last`, the last one if it is told to be behind that, and the window starts forty lines
above, or with the first line. It stays the same if something is put or taken away behind a cursor
inside the document, and if lines are put in front of a document and the cursor, on the forty-first
line or below, is moved down by as many. So does the answer whether it is a context. -/
theorem window_is_local (document : Text) (line column : Nat) :
    let lines := Text.lines document
    let last := min line (lines.length - 1)
    let first := last - 40
    let window := textBefore document line column
    (∃ behind, document = Text.ended (lines.take first) ++ window ++ behind) ∧
    window.count '\n' = last - first ∧
    (∃ l, lines[last]? = some l ∧
      (Text.lines window).getLast? = some (l.take (min column l.length))) ∧
    (Inside document line column → ∀ behind,
      let changed := Text.ended (lines.take first) ++ window ++ behind
      textBefore changed line column = window ∧
      ∀ language, isContext language (textBefore changed line column) =
        isContext language window) ∧
    (line < lines.length → 40 ≤ line → ∀ front, front.getLast? = some '\n' →
      let longer := front ++ document
      let moved := line + front.count '\n'
      textBefore longer moved column = window ∧
      ∀ language, isContext language (textBefore longer moved column) =
        isContext language window) := by
  refine ⟨window_splits document line column, count_textBefore document line column,
    getLast?_lines_textBefore document line column, ?_, ?_⟩
  · intro hinside behind
    have hlt : line < (Text.lines document).length := by
      obtain ⟨l, hl, -⟩ := hinside
      exact (List.getElem?_eq_some_iff.1 hl).1
    have hlast : min line ((Text.lines document).length - 1) = line := lineOf_of_lt hlt
    have hsame := textBefore_of_changed_behind hinside behind
    simp only [hlast]
    exact ⟨hsame, fun language => congrArg (isContext language) hsame⟩
  · intro hline habove front hfront
    have hsame := textBefore_of_longer hline habove hfront column
    exact ⟨hsame, fun language => congrArg (isContext language) hsame⟩

/-- A document of forty-two lines, all but the last one empty. -/
def farDocument : Text := List.replicate 41 '\n' ++ ['a', 'b']

/-- A cursor in the last line of that document does not see its first line, nor what is put behind
it or in front of the document. -/
theorem window_is_local_far :
    textBefore farDocument 41 1 = List.replicate 40 '\n' ++ ['a'] ∧
    textBefore (['\n'] ++ textBefore farDocument 41 1 ++ ['c', '\n']) 41 1 =
      textBefore farDocument 41 1 ∧
    textBefore (['c', '\n'] ++ farDocument) 42 1 = textBefore farDocument 41 1 := by
  obtain ⟨-, -, -, hbehind, hfront⟩ := window_is_local farDocument 41 1
  have hinside : Inside farDocument 41 1 := ⟨['a', 'b'], by decide, by decide⟩
  exact ⟨by decide, (hbehind hinside ['c', '\n']).1,
    (hfront (by decide) (by decide) ['c', '\n'] rfl).1⟩

end Roster.Cursor
