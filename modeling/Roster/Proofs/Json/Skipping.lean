import Roster.Proofs.Json.Spelling

/-!
# What is spelled is passed over

A value that nobody asked for is passed over without being read, with a stack of the arrays and
objects that are open instead of a recursion. What spells a value is passed over, and nothing more.

* `Skips` says that a text is passed over as a value, whatever frames are open around it.

**Theorem (`Spells.skips`).** What spells a value is passed over.

**Theorem (`Spells.skipValue`).** So is the value of an unknown member.

The rounds are counted along the text: a part takes one round in front of its value, and an array or
an object one for each bracket. `skipValue` allows for two rounds for each character, so it has
enough of them.
-/

namespace Roster.Json

/-- The bracket that closes a frame. -/
def Frame.closing : Frame → Char
  | .list => ']'
  | .object => '}'

/-- The text is passed over as a value, in less than two rounds for each of its characters. -/
def Skips (core : Text) : Prop :=
  ∃ k < 2 * core.length, ∀ (rounds : Nat) (frames : List Frame) (rest : Text), Delimited rest →
    skipOpen (rounds + k + 1) .value frames (core ++ rest) =
      skipOpen (rounds + 1) .behindValue frames rest

/-- The text is passed over as a part of the frame, behind its opening bracket or behind a comma. -/
def SkipsPart (frame : Frame) (part : Text) : Prop :=
  ∃ k ≤ 2 * part.length, ∀ (rounds : Nat) (outer : List Frame) (rest : Text), Delimited rest →
    skipOpen (rounds + k + 1) .behindOpening (frame :: outer) (part ++ rest) =
      skipOpen (rounds + 1) .behindValue (frame :: outer) rest ∧
    skipOpen (rounds + k + 1) .behindValue (frame :: outer) (',' :: (part ++ rest)) =
      skipOpen (rounds + 1) .behindValue (frame :: outer) rest

/-! ## Rounds -/

section Rounds

variable {frame : Frame} {outer frames : List Frame} {place : Place} {gap t rest : Text} {c : Char}

/-- Only what stands behind the white space matters, unless skipping is over. -/
theorem skipOpen_congr {u : Text} (h : skipSpace t = skipSpace u) (rounds : Nat) (place : Place)
    (frame : Frame) (outer : List Frame) :
    skipOpen (rounds + 1) place (frame :: outer) t =
      skipOpen (rounds + 1) place (frame :: outer) u := by
  cases place <;> cases frame <;> simp only [skipOpen, h]

theorem skipOpen_value_congr {u : Text} (h : skipSpace t = skipSpace u) (rounds : Nat)
    (frames : List Frame) :
    skipOpen (rounds + 1) .value frames t = skipOpen (rounds + 1) .value frames u := by
  simp only [skipOpen, h]

theorem skipOpen_close (hgap : gap.all isSpace = true) (rounds : Nat) (hplace : place ≠ .value)
    (rest : Text) :
    skipOpen (rounds + 2) place (frame :: outer) (gap ++ frame.closing :: rest) =
      skipOpen (rounds + 1) .behindValue outer rest := by
  have hspace : isSpace frame.closing = false := by cases frame <;> rfl
  have hblank : skipSpace (gap ++ frame.closing :: rest) = frame.closing :: rest :=
    skipSpace_gap hgap rfl hspace
  cases frame with
  | list =>
    rw [skipOpen, hblank]
    · cases outer <;> rfl
    · exact hplace
  | object =>
    rw [skipOpen, hblank]
    · cases outer <;> rfl
    · exact hplace

theorem skipOpen_comma (rounds : Nat) (hvalue : frame.toValue t = .ok rest) :
    skipOpen (rounds + 1) .behindValue (frame :: outer) (',' :: t) =
      skipOpen rounds .value (frame :: outer) rest := by
  cases frame with
  | list => simp [skipOpen, skipSpace_cons, hvalue, bind, Except.bind, isSpace]
  | object => simp [skipOpen, skipSpace_cons, hvalue, bind, Except.bind, isSpace]

theorem skipOpen_first (rounds : Nat) (hc : opensValue c = true) (ht : skipSpace t = c :: rest)
    {start : Text} (hvalue : frame.toValue (c :: rest) = .ok start) :
    skipOpen (rounds + 1) .behindOpening (frame :: outer) t =
      skipOpen rounds .value (frame :: outer) start := by
  have hbracket : c ≠ ']' := ne_of_opensValue hc (by decide)
  have hbrace : c ≠ '}' := ne_of_opensValue hc (by decide)
  cases frame with
  | list => simp [skipOpen, ht, hvalue, bind, Except.bind, hbracket]
  | object => simp [skipOpen, ht, hvalue, bind, Except.bind, hbrace]

end Rounds

/-! ## Parts -/

/-- A part is passed over if its value is and what stands in front of that leads there. -/
theorem Skips.part {frame : Frame} {core back part : Text} (hcore : Skips core)
    (hback : back.all isSpace = true) (hlength : core.length ≤ part.length)
    (hpart : ∀ rest, ∃ (c : Char) (u start start' : Text), opensValue c = true ∧
      skipSpace (part ++ rest) = c :: u ∧ frame.toValue (c :: u) = .ok start ∧
      frame.toValue (part ++ rest) = .ok start' ∧
      skipSpace start = skipSpace (core ++ (back ++ rest)) ∧
      skipSpace start' = skipSpace (core ++ (back ++ rest))) :
    SkipsPart frame part := by
  obtain ⟨k, hk, hskip⟩ := hcore
  refine ⟨k + 1, by omega, fun rounds outer rest hrest => ?_⟩
  obtain ⟨c, u, start, start', hc, hspace, hvalue, hvalue', hstart, hstart'⟩ := hpart rest
  have hbehind : skipOpen (rounds + k + 1) .value (frame :: outer) (core ++ (back ++ rest)) =
      skipOpen (rounds + 1) .behindValue (frame :: outer) rest := by
    -- The white space behind the value is not passed with it but with the next round.
    rw [hskip rounds _ _ (hrest.blank_append hback)]
    exact skipOpen_congr (skipSpace_append hback rest) rounds _ _ _
  constructor
  · rw [← Nat.add_assoc, skipOpen_first _ hc hspace hvalue, skipOpen_value_congr hstart, hbehind]
  · rw [← Nat.add_assoc, skipOpen_comma _ hvalue', skipOpen_value_congr hstart', hbehind]

theorem Skips.item {i : Item} (h : Skips i.written.core)
    (hopens : ∃ c u, i.written.core = c :: u ∧ opensValue c = true) : SkipsPart .list i.text := by
  obtain ⟨c, u, hcore, hc⟩ := hopens
  have hlength : i.written.core.length ≤ i.text.length := by
    simp only [Item.text, Padded.text, List.length_append]
    omega
  refine h.part i.written.blank_back hlength fun rest => ?_
  have htext : i.text ++ rest =
      i.written.front ++ (i.written.core ++ (i.written.back ++ rest)) := by
    simp [Item.text, Padded.text]
  have hspace := skipSpace_append i.written.blank_front (i.written.core ++ (i.written.back ++ rest))
  have hfirst := skipSpace_cons (isSpace_of_opensValue hc) (u ++ (i.written.back ++ rest))
  rw [htext, hspace]
  rw [hcore, List.cons_append] at hspace ⊢
  exact ⟨c, _, _, _, hc, hfirst, rfl, rfl, rfl, hspace⟩

theorem skipKey_label (l : Label) (t : Text) :
    skipSpace (l.text ++ t) = '"' :: (l.spelling ++ '"' :: (l.back ++ ':' :: t)) ∧
      skipKey ('"' :: (l.spelling ++ '"' :: (l.back ++ ':' :: t))) = .ok t ∧
      skipKey (l.text ++ t) = .ok t := by
  have htext : l.text ++ t = l.front ++ '"' :: (l.spelling ++ '"' :: (l.back ++ ':' :: t)) := by
    simp [Label.text]
  have hquote := skipSpace_cons (by decide : isSpace '"' = false)
    (l.spelling ++ '"' :: (l.back ++ ':' :: t))
  have hcolon : skipSpace (l.back ++ ':' :: t) = ':' :: t :=
    skipSpace_gap l.blank_back rfl (by decide)
  have hspace : skipSpace (l.text ++ t) = '"' :: (l.spelling ++ '"' :: (l.back ++ ':' :: t)) := by
    rw [htext, skipSpace_append l.blank_front, hquote]
  have hkey {start : Text}
      (hstart : skipSpace start = '"' :: (l.spelling ++ '"' :: (l.back ++ ':' :: t))) :
      skipKey start = .ok t := by
    simp only [skipKey, hstart, l.spells.skipString, bind, Except.bind, hcolon]
  exact ⟨hspace, hkey hquote, hkey hspace⟩

theorem Skips.member {m : Member} (h : Skips m.written.core) : SkipsPart .object m.text := by
  have hlength : m.written.core.length ≤ m.text.length := by
    simp only [Member.text, Padded.text, List.length_append]
    omega
  refine h.part m.written.blank_back hlength fun rest => ?_
  have htext : m.text ++ rest =
      m.label.text ++ (m.written.front ++ (m.written.core ++ (m.written.back ++ rest))) := by
    simp [Member.text, Padded.text]
  obtain ⟨hspace, hkey, hkey'⟩ := skipKey_label m.label
    (m.written.front ++ (m.written.core ++ (m.written.back ++ rest)))
  have hblank := skipSpace_append m.written.blank_front
    (m.written.core ++ (m.written.back ++ rest))
  rw [htext]
  exact ⟨'"', _, _, _, by decide, hspace, hkey, hkey', hblank, hblank⟩

/-! ## Arrays and objects -/

theorem skips_behindFirst {frame : Frame} {parts : List Text}
    (h : ∀ part ∈ parts, SkipsPart frame part) :
    ∃ k ≤ 2 * (parts.flatMap (',' :: ·)).length + 1,
      ∀ (rounds : Nat) (outer : List Frame) (gap rest : Text), gap.all isSpace = true →
        skipOpen (rounds + k + 1) .behindValue (frame :: outer)
          (behindFirst frame.closing parts gap rest) =
            skipOpen (rounds + 1) .behindValue outer rest := by
  have hdelimiter : isDelimiter frame.closing = true := by cases frame <;> rfl
  induction parts with
  | nil =>
    refine ⟨1, Nat.le_add_left _ _, fun rounds outer gap rest hgap => ?_⟩
    exact skipOpen_close hgap rounds (by decide) rest
  | cons part parts ih =>
    obtain ⟨k, hk, hpart⟩ := h part List.mem_cons_self
    obtain ⟨k', hk', hparts⟩ := ih fun p hp => h p (List.mem_cons_of_mem part hp)
    refine ⟨k' + k, ?_, fun rounds outer gap rest hgap => ?_⟩
    · rw [List.flatMap_cons, List.length_append, List.length_cons]
      omega
    · have hdelimited := delimited_behindFirst hdelimiter parts hgap rest
      rw [behindFirst_cons, ← Nat.add_assoc, (hpart _ outer _ hdelimited).2,
        hparts rounds outer gap rest hgap]

theorem skips_enclose (frame : Frame) {opening : Char} {parts : List Text} {gap : Text}
    (hgap : gap.all isSpace = true) (h : ∀ part ∈ parts, SkipsPart frame part)
    (hopening : ∀ rounds frames t, skipOpen (rounds + 1) .value frames (opening :: t) =
      skipOpen rounds .behindOpening (frame :: frames) t) :
    Skips (enclose opening frame.closing parts gap) := by
  cases parts with
  | nil =>
    refine ⟨2, ?_, fun rounds frames rest _ => ?_⟩
    · simp only [enclose, Text.joinWith, List.length_cons, List.length_append]
      omega
    · rw [enclose_nil, hopening, skipOpen_close hgap rounds (by decide)]
  | cons part parts =>
    have hdelimiter : isDelimiter frame.closing = true := by cases frame <;> rfl
    obtain ⟨k, hk, hpart⟩ := h part List.mem_cons_self
    obtain ⟨k', hk', hparts⟩ := skips_behindFirst fun p hp => h p (List.mem_cons_of_mem part hp)
    refine ⟨k' + k + 1, ?_, fun rounds frames rest _ => ?_⟩
    · simp only [enclose, joinWith_cons, List.length_cons, List.length_append]
      omega
    · have hdelimited := delimited_behindFirst hdelimiter parts hgap rest
      rw [enclose_cons, hopening, ← Nat.add_assoc, ← Nat.add_assoc,
        (hpart _ frames _ hdelimited).1, hparts rounds frames gap rest hgap]

/-! ## Values -/

theorem SpellsScalar.skips {t : Text} {v : Value} (h : SpellsScalar t v) : Skips t := by
  obtain ⟨c, u, rfl, hc, hbracket, hbrace⟩ := h.opens
  refine ⟨1, by simp only [List.length_cons]; omega, fun rounds frames rest hrest => ?_⟩
  have hskip := h.skipScalar hrest
  have hspace := skipSpace_cons (isSpace_of_opensValue hc) (u ++ rest)
  rw [List.cons_append] at hskip ⊢
  cases frames with
  | nil => simp [skipOpen, hspace, hbracket, hbrace, hskip, bind, Except.bind]
  | cons frame outer => simp [skipOpen, hspace, hbracket, hbrace, hskip, bind, Except.bind]

/-- **What spells a value is passed over.** -/
theorem Spells.skips {nesting : Nat} {t : Text} {v : Value} (h : Spells nesting t v) :
    Skips t := by
  induction h with
  | scalar spells => exact spells.skips
  | array items blank spells ih =>
    refine skips_enclose .list blank (fun part hpart => ?_) fun rounds frames t => rfl
    obtain ⟨i, hi, rfl⟩ := List.mem_map.1 hpart
    exact (ih i hi).item (spells i hi).readsFrom.opens
  | object members blank spells ih =>
    refine skips_enclose .object blank (fun part hpart => ?_) fun rounds frames t => rfl
    obtain ⟨m, hm, rfl⟩ := List.mem_map.1 hpart
    exact (ih m hm).member

/-- **The value of an unknown member is passed over.** -/
theorem Spells.skipValue {nesting : Nat} {t : Text} {v : Value} (h : Spells nesting t v)
    {front rest : Text} (hfront : front.all isSpace = true) (hrest : Delimited rest) :
    skipValue (front ++ (t ++ rest)) = .ok rest := by
  obtain ⟨k, hk, hskip⟩ := h.skips
  have hrounds : ∃ rounds, 2 * (front ++ (t ++ rest)).length + 2 = rounds + k + 1 := by
    refine ⟨2 * (front ++ (t ++ rest)).length + 1 - k, ?_⟩
    simp only [List.length_append]
    omega
  obtain ⟨rounds, hrounds⟩ := hrounds
  rw [Json.skipValue, hrounds, skipOpen_value_congr (skipSpace_append hfront _),
    hskip rounds [] rest hrest]
  rfl

end Roster.Json
