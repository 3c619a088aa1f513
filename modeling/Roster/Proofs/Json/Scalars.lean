import Roster.Proofs.Json.Delimited
import Roster.Proofs.Json.Layout

/-!
# Scalars are delimited

A string literal ends with its closing quote, a word with its last letter. So they are read for
themselves, whatever follows.

**Theorem (`string_taken`).** What is read as a string literal is read, and passed over, whatever
follows.

**Theorem (`scalar_taken`).** What is read as a scalar is taken.

A pair of surrogates is one character for the reader and two for what passes over it, so the two
loops run out of step. `Passes` counts the characters of the text instead of the rounds.
-/

namespace Roster.Json

/-- A result behind two steps was found by both. -/
theorem ok_of_bind {ε α β : Type} {x : Except ε α} {f : α → Except ε β} {b : β}
    (h : x >>= f = .ok b) : ∃ a, x = .ok a ∧ f a = .ok b := by
  cases x with
  | error e => exact nomatch h
  | ok a => exact ⟨a, rfl, h⟩

/-- A result that is turned into another was found. -/
theorem ok_of_map {ε α β : Type} {x : Except ε α} {f : α → β} {b : β} (h : x.map f = .ok b) :
    ∃ a, x = .ok a ∧ f a = b := by
  cases x with
  | error e => exact nomatch h
  | ok a => exact ⟨a, rfl, Except.ok.inj h⟩

/-! ## Code units -/

/-- The text is read as a code unit, whatever follows. -/
def SpellsUnit (digits : Text) (unit : Nat) : Prop :=
  ∀ rest, readUnit (digits ++ rest) = .ok (unit, rest)

theorem readUnit_ok {t rest : Text} {unit : Nat} (h : readUnit t = .ok (unit, rest)) :
    ∃ digits, t = digits ++ rest ∧ SpellsUnit digits unit := by
  unfold readUnit at h
  split at h
  · next a b c d after =>
    split at h
    · next ha hb hc hd =>
      obtain ⟨rfl, rfl⟩ := Prod.mk.inj (Except.ok.inj h)
      refine ⟨[a, b, c, d], rfl, fun rest => ?_⟩
      simp only [List.cons_append, List.nil_append, readUnit, ha, hb, hc, hd]
    · cases h
  · split at h
    · cases h
    · cases h

/-- What the digits behind `\\u` stand for: one code unit, or a pair with another escape. -/
inductive SpellsUnits : Text → Char → Prop where
  | single {digits : Text} {unit : Nat} (hdigits : SpellsUnit digits unit)
      (hlow : isLowSurrogate unit = false) (hhigh : isHighSurrogate unit = false) :
      SpellsUnits digits (Char.ofNat unit)
  | pair {digits digits' : Text} {high low : Nat} (hdigits : SpellsUnit digits high)
      (hdigits' : SpellsUnit digits' low) (hnot : isLowSurrogate high = false)
      (hhigh : isHighSurrogate high = true) (hlow : isLowSurrogate low = true) :
      SpellsUnits (digits ++ '\\' :: 'u' :: digits')
        (Char.ofNat (0x10000 + 0x400 * (high - 0xD800) + (low - 0xDC00)))

theorem readUnitEscape_ok {t rest : Text} {c : Char} (h : readUnitEscape t = .ok (c, rest)) :
    ∃ piece, t = piece ++ rest ∧ SpellsUnits piece c := by
  obtain ⟨⟨unit, after⟩, hread, hthen⟩ := ok_of_bind h
  obtain ⟨digits, rfl, hdigits⟩ := readUnit_ok hread
  dsimp only at hthen
  split at hthen
  · exact nomatch hthen
  next hlow =>
  rw [Bool.not_eq_true] at hlow
  split at hthen
  · next hhigh =>
    split at hthen
    · exact nomatch hthen
    · exact nomatch hthen
    · obtain ⟨⟨unit', after'⟩, hread', hlast⟩ := ok_of_bind hthen
      obtain ⟨digits', rfl, hdigits'⟩ := readUnit_ok hread'
      dsimp only at hlast
      split at hlast
      · next hlow' =>
        obtain ⟨rfl, rfl⟩ := Prod.mk.inj (Except.ok.inj hlast)
        exact ⟨digits ++ '\\' :: 'u' :: digits', by simp,
          .pair hdigits hdigits' hlow hhigh hlow'⟩
      · exact nomatch hlast
    · exact nomatch hthen
    · exact nomatch hthen
  · next hhigh =>
    rw [Bool.not_eq_true] at hhigh
    obtain ⟨rfl, rfl⟩ := Prod.mk.inj (Except.ok.inj hthen)
    exact ⟨digits, rfl, .single hdigits hlow hhigh⟩

theorem SpellsUnits.readUnitEscape {piece : Text} {c : Char} (h : SpellsUnits piece c)
    (rest : Text) : readUnitEscape (piece ++ rest) = .ok (c, rest) := by
  cases h with
  | single hdigits hlow hhigh =>
    simp only [Json.readUnitEscape, hdigits rest, bind, Except.bind, hlow, hhigh,
      Bool.false_eq_true, if_false]
  | pair hdigits hdigits' hnot hhigh hlow =>
    simp only [Json.readUnitEscape, List.append_assoc, List.cons_append, hdigits _, hdigits' rest,
      bind, Except.bind, hnot, hhigh, hlow, Bool.false_eq_true, if_false, if_true]

/-! ## Escapes -/

/-- What stands for a character behind a backslash. -/
inductive SpellsEscape : Text → Char → Prop where
  | short {c meant : Char} (hmeant : shortEscape? c = some meant) : SpellsEscape [c] meant
  | units {digits : Text} {c : Char} (hdigits : SpellsUnits digits c) :
      SpellsEscape ('u' :: digits) c

theorem ne_u_of_shortEscape? {c meant : Char} (h : shortEscape? c = some meant) : c ≠ 'u' := by
  rintro rfl
  exact nomatch h

theorem readEscape_ok {t rest : Text} {c : Char} (h : readEscape t = .ok (c, rest)) :
    ∃ piece, t = piece ++ rest ∧ SpellsEscape piece c := by
  unfold readEscape at h
  split at h
  · exact nomatch h
  · obtain ⟨digits, rfl, hdigits⟩ := readUnitEscape_ok h
    exact ⟨'u' :: digits, rfl, .units hdigits⟩
  · next d after hnot =>
    cases hmeant : shortEscape? d with
    | none =>
      rw [hmeant] at h
      exact nomatch h
    | some meant =>
      rw [hmeant] at h
      obtain ⟨rfl, rfl⟩ := Prod.mk.inj (Except.ok.inj h)
      exact ⟨[d], rfl, .short hmeant⟩

theorem SpellsEscape.readEscape {piece : Text} {c : Char} (h : SpellsEscape piece c)
    (rest : Text) : readEscape (piece ++ rest) = .ok (c, rest) := by
  cases h with
  | @short d _ hmeant =>
    rw [List.singleton_append, Json.readEscape, hmeant]
    exact fun hu => ne_u_of_shortEscape? hmeant hu
  | units hdigits => exact hdigits.readUnitEscape rest

/-- The text is passed over inside a string literal, in no more rounds than it has characters. -/
def Passes (piece : Text) : Prop :=
  ∀ clock rest : Text, piece.length ≤ clock.length →
    ∃ left : Text, clock.length ≤ left.length + piece.length ∧
      skipCharacters clock (piece ++ rest) = skipCharacters left rest

theorem passes_nil : Passes [] := fun clock _ _ => ⟨clock, Nat.le_refl _, rfl⟩

theorem Passes.append {piece next : Text} (h : Passes piece) (hnext : Passes next) :
    Passes (piece ++ next) := by
  intro clock rest hclock
  rw [List.length_append] at hclock
  obtain ⟨left, hleft, hskip⟩ := h clock (next ++ rest) (by omega)
  obtain ⟨left', hleft', hskip'⟩ := hnext left rest (by omega)
  refine ⟨left', by rw [List.length_append]; omega, ?_⟩
  rw [List.append_assoc, hskip, hskip']

/-- What is passed over in one round is passed over. -/
theorem passes_of_round {piece : Text} (hpiece : piece ≠ [])
    (h : ∀ k clock rest, skipCharacters (k :: clock) (piece ++ rest) = skipCharacters clock rest) :
    Passes piece := by
  intro clock rest hclock
  have hpos : 0 < piece.length := List.length_pos_iff.2 hpiece
  cases clock with
  | nil =>
    rw [List.length_nil] at hclock
    omega
  | cons k clock =>
    refine ⟨clock, ?_, h k clock rest⟩
    rw [List.length_cons]
    omega

theorem passes_short {c meant : Char} (h : shortEscape? c = some meant) : Passes ['\\', c] := by
  refine passes_of_round (by simp) fun k clock rest => ?_
  have hsome : (shortEscape? c).isSome = true := by rw [h, Option.isSome_some]
  rw [List.cons_append, List.singleton_append, skipCharacters, if_pos hsome]
  exact fun hu => ne_u_of_shortEscape? h hu

theorem passes_unit {digits : Text} {unit : Nat} (h : SpellsUnit digits unit) :
    Passes ('\\' :: 'u' :: digits) := by
  refine passes_of_round (by simp) fun k clock rest => ?_
  simp only [List.cons_append, skipCharacters, h rest, bind, Except.bind]

theorem SpellsEscape.passes {piece : Text} {c : Char} (h : SpellsEscape piece c) :
    Passes ('\\' :: piece) := by
  cases h with
  | short hmeant => exact passes_short hmeant
  | units hunits =>
    cases hunits with
    | single hdigits => exact passes_unit hdigits
    | pair hdigits hdigits' => exact (passes_unit hdigits).append (passes_unit hdigits')

/-! ## Strings -/

/-- The characters of a string literal in front of its closing quote. -/
inductive SpellsText : Text → Text → Prop where
  | nil : SpellsText [] []
  | escape {piece t s : Text} {c : Char} (head : SpellsEscape piece c) (tail : SpellsText t s) :
      SpellsText ('\\' :: (piece ++ t)) (c :: s)
  | plain {t s : Text} {c : Char} (hquote : c ≠ '"') (hslash : c ≠ '\\')
      (hcontrol : ¬ c.toNat < 0x20) (tail : SpellsText t s) : SpellsText (c :: t) (c :: s)

theorem readCharacters_ok {clock t s rest : Text} (h : readCharacters clock t = .ok (s, rest)) :
    ∃ piece, t = piece ++ '"' :: rest ∧ SpellsText piece s := by
  induction clock generalizing t s with
  | nil => exact nomatch h
  | cons k clock ih =>
    unfold readCharacters at h
    split at h
    · exact nomatch h
    · obtain ⟨rfl, rfl⟩ := Prod.mk.inj (Except.ok.inj h)
      exact ⟨[], rfl, .nil⟩
    · obtain ⟨⟨c, behind⟩, hescape, hthen⟩ := ok_of_bind h
      obtain ⟨⟨cs, behind'⟩, hothers, hlast⟩ := ok_of_bind hthen
      obtain ⟨rfl, rfl⟩ := Prod.mk.inj (Except.ok.inj hlast)
      obtain ⟨escape, rfl, hspells⟩ := readEscape_ok hescape
      obtain ⟨piece, rfl, hpiece⟩ := ih hothers
      exact ⟨'\\' :: (escape ++ piece), by simp, .escape hspells hpiece⟩
    · next hquote hslash =>
      split at h
      · exact nomatch h
      next hcontrol =>
      obtain ⟨⟨cs, behind⟩, hothers, hlast⟩ := ok_of_bind h
      obtain ⟨rfl, rfl⟩ := Prod.mk.inj (Except.ok.inj hlast)
      obtain ⟨piece, rfl, hpiece⟩ := ih hothers
      exact ⟨_ :: piece, rfl, .plain hquote hslash hcontrol hpiece⟩

theorem SpellsText.readCharacters {piece s : Text} (h : SpellsText piece s) {clock : Text}
    (hclock : piece.length < clock.length) (rest : Text) :
    readCharacters clock (piece ++ '"' :: rest) = .ok (s, rest) := by
  induction h generalizing clock with
  | nil =>
    cases clock with
    | nil => exact absurd hclock (Nat.not_lt_zero _)
    | cons k clock => rfl
  | @escape piece t s c head tail ih =>
    cases clock with
    | nil => exact absurd hclock (Nat.not_lt_zero _)
    | cons k clock =>
      simp only [List.length_cons, List.length_append] at hclock
      have hothers := ih (by omega : t.length < clock.length)
      have hround := readCharacters_escape (head.readEscape (t ++ '"' :: rest)) k clock
      rw [hothers] at hround
      rw [List.cons_append, List.append_assoc]
      exact hround
  | @plain t s c hquote hslash hcontrol tail ih =>
    cases clock with
    | nil => exact absurd hclock (Nat.not_lt_zero _)
    | cons k clock =>
      have hothers := ih (Nat.lt_of_succ_lt_succ hclock)
      rw [List.cons_append, Json.readCharacters, if_neg hcontrol, hothers]
      · rfl
      · exact hquote
      · exact hslash

theorem passes_plain {c : Char} (hquote : c ≠ '"') (hslash : c ≠ '\\')
    (hcontrol : ¬ c.toNat < 0x20) : Passes [c] := by
  refine passes_of_round (by simp) fun k clock rest => ?_
  simp [skipCharacters, hslash, hcontrol]

theorem SpellsText.passes {piece s : Text} (h : SpellsText piece s) : Passes piece := by
  induction h with
  | nil => exact passes_nil
  | escape head _ ih => exact head.passes.append ih
  | plain hquote hslash hcontrol _ ih => exact (passes_plain hquote hslash hcontrol).append ih

theorem SpellsText.readString {piece s : Text} (h : SpellsText piece s) (rest : Text) :
    readString (piece ++ '"' :: rest) = .ok (s, rest) := by
  refine h.readCharacters ?_ rest
  simp only [List.length_cons, List.length_append]
  omega

theorem SpellsText.skipString {piece s : Text} (h : SpellsText piece s) (rest : Text) :
    skipString (piece ++ '"' :: rest) = .ok rest := by
  obtain ⟨left, hleft, hskip⟩ := h.passes ('"' :: (piece ++ '"' :: rest)) ('"' :: rest)
    (by simp only [List.length_cons, List.length_append]; omega)
  simp only [List.length_cons, List.length_append] at hleft
  rw [Json.skipString, hskip]
  cases left with
  | nil =>
    rw [List.length_nil] at hleft
    omega
  | cons k left => rfl

/-- **What is read as a string literal** is spelled in front of its quote. -/
theorem readString_ok {t s rest : Text} (h : readString t = .ok (s, rest)) :
    ∃ piece, t = piece ++ '"' :: rest ∧ SpellsText piece s :=
  readCharacters_ok h

theorem spellsText_of_readString {t s : Text} (h : readString (t ++ ['"']) = .ok (s, [])) :
    SpellsText t s := by
  obtain ⟨piece, hpiece, hspells⟩ := readString_ok h
  exact (List.append_inj_left' hpiece rfl) ▸ hspells

/-! ## Words -/

theorem readWord_ok {word t rest : Text} (h : readWord word t = .ok ((), rest)) :
    t = word ++ rest := by
  induction word generalizing t with
  | nil => exact (Prod.mk.inj (Except.ok.inj h)).2
  | cons w word ih =>
    cases t with
    | nil => exact nomatch h
    | cons c t =>
      rw [readWord] at h
      split at h
      · next hc => rw [hc, ih h, List.cons_append]
      · exact nomatch h

/-! ## Scalars -/

/-- The text is a word, a string literal or a number. -/
inductive SpellsScalar : Text → Value → Prop where
  | null : SpellsScalar "null".toList .null
  | bool (b : Bool) : SpellsScalar (if b then "true".toList else "false".toList) (.bool b)
  | text {piece s : Text} (hpiece : SpellsText piece s) :
      SpellsScalar ('"' :: (piece ++ ['"'])) (.text s)
  | number {piece : Text} {n : Number} (hpiece : readNumber false piece = .ok (n, [])) :
      SpellsScalar piece (.number n)
  | negative {piece : Text} {n : Number} (hpiece : readNumber true piece = .ok (n, [])) :
      SpellsScalar ('-' :: piece) (.number n)

section Scalars

variable {piece t rest : Text} {v : Value} {c : Char}

theorem ne_of_isDigit {d : Char} (hc : Text.isDigit c = true) (hd : Text.isDigit d = false) :
    c ≠ d := by
  rintro rfl
  exact nomatch hc.symm.trans hd

theorem readScalar_digit (hc : Text.isDigit c = true) (t : Text) :
    readScalar (c :: t) = (readNumber false (c :: t)).map fun (n, rest) => (.number n, rest) := by
  rw [readScalar, if_pos hc]
  · cases readNumber false (c :: t) with
    | error e => rfl
    | ok result => rfl
  all_goals exact ne_of_isDigit hc (by decide)

theorem skipScalar_digit (hc : Text.isDigit c = true) (t : Text) :
    skipScalar (c :: t) = skipNumber (c :: t) := by
  rw [skipScalar, if_pos hc]
  all_goals exact ne_of_isDigit hc (by decide)

theorem taken_of_number {negative : Bool} {n : Number}
    (h : readNumber negative piece = .ok (n, [])) :
    Taken (readNumber negative) skipNumber piece n := by
  obtain ⟨piece', hpiece, htaken⟩ := number_taken h
  rw [List.append_nil] at hpiece
  exact hpiece ▸ htaken

/-- What is read as a number is a number by itself. -/
theorem readNumber_ok {negative : Bool} {n : Number} (h : readNumber negative t = .ok (n, rest)) :
    ∃ piece, t = piece ++ rest ∧ readNumber negative piece = .ok (n, []) := by
  obtain ⟨piece, hsplit, htaken⟩ := number_taken h
  have hpiece := htaken.reads [] delimited_nil
  rw [List.append_nil] at hpiece
  exact ⟨piece, hsplit, hpiece⟩

theorem exists_digit {n : Number} {negative : Bool}
    (h : readNumber negative piece = .ok (n, rest)) :
    ∃ c t, piece = c :: t ∧ Text.isDigit c = true := by
  obtain ⟨c, digits, after, hpiece, hdigits, -, -⟩ := exists_digits_of_readNumber h
  exact ⟨c, digits ++ after, hpiece, hdigits c List.mem_cons_self⟩

/-- The first character of a scalar opens it, and no array or object. -/
theorem SpellsScalar.opens (h : SpellsScalar piece v) :
    ∃ c t, piece = c :: t ∧ opensValue c = true ∧ c ≠ '[' ∧ c ≠ '{' := by
  cases h with
  | null => exact ⟨'n', _, rfl, by decide, by decide, by decide⟩
  | bool b =>
    cases b with
    | true => exact ⟨'t', _, rfl, by decide, by decide, by decide⟩
    | false => exact ⟨'f', _, rfl, by decide, by decide, by decide⟩
  | text _ => exact ⟨'"', _, rfl, by decide, by decide, by decide⟩
  | negative _ => exact ⟨'-', _, rfl, by decide, by decide, by decide⟩
  | number hpiece =>
    obtain ⟨c, t, rfl, hc⟩ := exists_digit hpiece
    exact ⟨c, t, rfl, by simp [opensValue, hc], ne_of_isDigit hc (by decide),
      ne_of_isDigit hc (by decide)⟩

/-- **A scalar is read**, whatever delimiter follows. -/
theorem SpellsScalar.readScalar (h : SpellsScalar piece v) (hrest : Delimited rest) :
    readScalar (piece ++ rest) = .ok (v, rest) := by
  cases h with
  | null => rfl
  | bool b =>
    cases b with
    | true => rfl
    | false => rfl
  | @text piece s hpiece =>
    have htext : '"' :: (piece ++ ['"']) ++ rest = '"' :: (piece ++ '"' :: rest) := by simp
    rw [htext, Json.readScalar, hpiece.readString rest]
    rfl
  | number hpiece =>
    obtain ⟨c, t, rfl, hc⟩ := exists_digit hpiece
    have hread := (taken_of_number hpiece).reads rest hrest
    rw [List.cons_append] at hread ⊢
    rw [readScalar_digit hc, hread]
    rfl
  | negative hpiece =>
    rw [List.cons_append, Json.readScalar, (taken_of_number hpiece).reads rest hrest]
    rfl

/-- **A scalar is passed over**, whatever delimiter follows. -/
theorem SpellsScalar.skipScalar (h : SpellsScalar piece v) (hrest : Delimited rest) :
    skipScalar (piece ++ rest) = .ok rest := by
  cases h with
  | null => rfl
  | bool b =>
    cases b with
    | true => rfl
    | false => rfl
  | @text piece s hpiece =>
    have htext : '"' :: (piece ++ ['"']) ++ rest = '"' :: (piece ++ '"' :: rest) := by simp
    rw [htext, Json.skipScalar, hpiece.skipString rest]
  | number hpiece =>
    obtain ⟨c, t, rfl, hc⟩ := exists_digit hpiece
    have hskip := (taken_of_number hpiece).skips rest hrest
    rw [List.cons_append] at hskip ⊢
    rw [skipScalar_digit hc, hskip]
  | negative hpiece =>
    rw [List.cons_append, Json.skipScalar, (taken_of_number hpiece).skips rest hrest]

/-- **What is read as a scalar** is spelled in front of what is left. -/
theorem readScalar_ok (h : Json.readScalar t = .ok (v, rest)) :
    ∃ piece, t = piece ++ rest ∧ SpellsScalar piece v := by
  unfold Json.readScalar at h
  split at h
  · obtain ⟨⟨_, after⟩, hword, hlast⟩ := ok_of_bind h
    obtain ⟨rfl, rfl⟩ := Prod.mk.inj (Except.ok.inj hlast)
    exact ⟨"null".toList, congrArg (List.cons _) (readWord_ok hword), .null⟩
  · obtain ⟨⟨_, after⟩, hword, hlast⟩ := ok_of_bind h
    obtain ⟨rfl, rfl⟩ := Prod.mk.inj (Except.ok.inj hlast)
    exact ⟨"true".toList, congrArg (List.cons _) (readWord_ok hword), .bool true⟩
  · obtain ⟨⟨_, after⟩, hword, hlast⟩ := ok_of_bind h
    obtain ⟨rfl, rfl⟩ := Prod.mk.inj (Except.ok.inj hlast)
    exact ⟨"false".toList, congrArg (List.cons _) (readWord_ok hword), .bool false⟩
  · obtain ⟨⟨s, after⟩, hstring, hlast⟩ := ok_of_bind h
    obtain ⟨rfl, rfl⟩ := Prod.mk.inj (Except.ok.inj hlast)
    obtain ⟨piece, rfl, hpiece⟩ := readString_ok hstring
    exact ⟨'"' :: (piece ++ ['"']), by simp, .text hpiece⟩
  · obtain ⟨⟨n, after⟩, hnumber, hlast⟩ := ok_of_bind h
    obtain ⟨rfl, rfl⟩ := Prod.mk.inj (Except.ok.inj hlast)
    obtain ⟨piece, rfl, hpiece⟩ := readNumber_ok hnumber
    exact ⟨'-' :: piece, rfl, .negative hpiece⟩
  · split at h
    · obtain ⟨⟨n, after⟩, hnumber, hlast⟩ := ok_of_bind h
      obtain ⟨rfl, rfl⟩ := Prod.mk.inj (Except.ok.inj hlast)
      obtain ⟨piece, hsplit, hpiece⟩ := readNumber_ok hnumber
      exact ⟨piece, hsplit, .number hpiece⟩
    · exact nomatch h
  · exact nomatch h

end Scalars

end Roster.Json
