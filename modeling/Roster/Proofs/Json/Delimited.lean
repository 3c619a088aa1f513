import Mathlib.Tactic.SplitIfs
import Roster.Json.Record
import Roster.Proofs.Json.Numbers

/-!
# Numbers are delimited

A value ends where white space, a comma or a closing bracket follows, or nothing. What is read as a
number is the same text with any other delimiter behind it, and the same text is passed over.

* `Delimited` says what may follow a value.
* `Taken` says that a piece of text is read as a value, and passed over, whatever delimiter follows.

**Theorem (`number_taken`).** What is read as a number is taken.

The layers of a number are gone through from its end: an exponent, a scale, a fraction, what stands
behind the digits, the whole. Each layer is taken if the next one is, because what stands behind its
digits is no digit.
-/

namespace Roster.Json

/-! ## What follows a value -/

/-- A character that may follow a value: white space, a comma or a closing bracket. -/
def isDelimiter (c : Char) : Bool := isSpace c || c = ',' || c = ']' || c = '}'

/-- Nothing follows, or a delimiter. -/
def Delimited (t : Text) : Prop := ∀ c ∈ t.head?, isDelimiter c = true

theorem delimited_nil : Delimited [] := fun _ h => nomatch h

theorem delimited_cons {c : Char} (h : isDelimiter c = true) (t : Text) : Delimited (c :: t) :=
  fun _ hc => Option.some.inj hc ▸ h

theorem Delimited.head?_ne {t : Text} (h : Delimited t) {c : Char} (hc : isDelimiter c = false) :
    t.head? ≠ some c :=
  fun hhead => nomatch hc.symm.trans (h c hhead)

theorem not_isDigit_of_isDelimiter {c : Char} (h : isDelimiter c = true) :
    Text.isDigit c = false := by
  simp only [isDelimiter, isSpace, Bool.or_eq_true, decide_eq_true_eq] at h
  rcases h with (((((rfl | rfl) | rfl) | rfl) | rfl) | rfl) | rfl
  all_goals rfl

/-- The piece is read as `x` and passed over, whatever delimiter follows. -/
structure Taken {α : Type} (read : Reader α) (skip : Text → Except Fault Text) (piece : Text)
    (x : α) : Prop where
  reads : ∀ rest, Delimited rest → read (piece ++ rest) = .ok (x, rest)
  skips : ∀ rest, Delimited rest → skip (piece ++ rest) = .ok rest

/-- The text does not start with a digit. -/
def Digitless (t : Text) : Prop := ∀ c ∈ t.head?, Text.isDigit c = false

theorem Delimited.digitless {t : Text} (h : Delimited t) : Digitless t :=
  fun c hc => not_isDigit_of_isDelimiter (h c hc)

/-- What follows a piece may change from anything that is no digit to any delimiter. -/
theorem Digitless.delimit {piece rest rest' : Text} (h : Digitless (piece ++ rest))
    (hrest' : Delimited rest') : Digitless (piece ++ rest') := by
  cases piece with
  | nil => exact hrest'.digitless
  | cons c piece => exact h

theorem digitless_dropWhile (t : Text) : Digitless (t.dropWhile Text.isDigit) := by
  intro c hc
  have hnot := List.head?_dropWhile_not Text.isDigit t
  rw [Option.mem_def.1 hc] at hnot
  simpa using hnot

theorem isDigit_of_mem_takeWhile {t : Text} {c : Char} (h : c ∈ t.takeWhile Text.isDigit) :
    Text.isDigit c = true :=
  List.all_eq_true.1 List.all_takeWhile c h

/-! ## Numbers -/

section Numbers

variable {negative : Bool} {significand : Nat} {t rest : Text} {n : Number}

theorem signedDouble_ok {exponent : Int} {rest' : Text}
    (h : signedDouble negative significand exponent rest = .ok (n, rest')) :
    rest' = rest ∧ ∀ after, signedDouble negative significand exponent after = .ok (n, after) := by
  simp only [signedDouble] at h ⊢
  cases hdouble : toDouble? significand exponent with
  | none =>
    rw [hdouble] at h
    exact nomatch h
  | some x =>
    rw [hdouble] at h
    obtain ⟨rfl, rfl⟩ := Prod.mk.inj (Except.ok.inj h)
    exact ⟨rfl, fun _ => rfl⟩

theorem wholeNumber_ok {rest' : Text} (h : wholeNumber negative significand rest = .ok (n, rest')) :
    rest' = rest ∧ ∀ after, wholeNumber negative significand after = .ok (n, after) := by
  simp only [wholeNumber] at h ⊢
  split_ifs at h ⊢
  · obtain ⟨rfl, rfl⟩ := Prod.mk.inj (Except.ok.inj h)
    exact ⟨rfl, fun _ => rfl⟩
  · obtain ⟨rfl, rfl⟩ := Prod.mk.inj (Except.ok.inj h)
    exact ⟨rfl, fun _ => rfl⟩
  · exact signedDouble_ok h

theorem exists_digits {c : Char} {t : Text} (hc : Text.isDigit c = true) :
    ∃ digits rest, c :: t = c :: digits ++ rest ∧ (∀ d ∈ c :: digits, Text.isDigit d = true) ∧
      Digitless rest := by
  refine ⟨t.takeWhile Text.isDigit, t.dropWhile Text.isDigit, ?_, fun d hd => ?_,
    digitless_dropWhile t⟩
  · rw [List.cons_append, List.takeWhile_append_dropWhile]
  · rcases List.mem_cons.1 hd with rfl | hd
    · exact hc
    · exact isDigit_of_mem_takeWhile hd

/-! ### Exponents -/

theorem finishExponent_ok {scale : Int} {below : Bool} {digits rest' : Text}
    (h : finishExponent negative significand scale below digits rest = .ok (n, rest')) :
    rest' = rest ∧ ∀ after,
      finishExponent negative significand scale below digits after = .ok (n, after) := by
  simp only [finishExponent] at h ⊢
  split at h
  · exact signedDouble_ok h
  · split_ifs at h ⊢
    · exact nomatch h
    · obtain ⟨rfl, rfl⟩ := Prod.mk.inj (Except.ok.inj h)
      exact ⟨rfl, fun _ => rfl⟩

/-- The sign of an exponent is told whatever digits follow it. -/
theorem exists_sign (t : Text) :
    ∃ sign, t = sign ++ (exponentSign t).2 ∧ ∀ d u, Text.isDigit d = true →
      exponentSign (sign ++ d :: u) = ((exponentSign t).1, d :: u) := by
  by_cases hplus : ∃ rest, t = '+' :: rest
  · obtain ⟨rest, rfl⟩ := hplus
    exact ⟨['+'], rfl, fun _ _ _ => rfl⟩
  by_cases hminus : ∃ rest, t = '-' :: rest
  · obtain ⟨rest, rfl⟩ := hminus
    exact ⟨['-'], rfl, fun _ _ _ => rfl⟩
  have hnone : exponentSign t = (false, t) := by
    rw [exponentSign]
    · exact fun rest ht => hplus ⟨rest, ht⟩
    · exact fun rest ht => hminus ⟨rest, ht⟩
  refine ⟨[], by rw [hnone]; rfl, fun d u hd => ?_⟩
  have hfirst : ∀ c, Text.isDigit c = false → d ≠ c := by
    rintro c hc rfl
    exact nomatch hd.symm.trans hc
  rw [hnone, List.nil_append, exponentSign]
  · exact fun rest ht => hfirst '+' (by decide) (List.cons.inj ht).1
  · exact fun rest ht => hfirst '-' (by decide) (List.cons.inj ht).1

theorem exponent_taken {scale : Int}
    (h : readExponent negative significand scale t = .ok (n, rest)) :
    ∃ piece, t = piece ++ rest ∧
      Taken (readExponent negative significand scale) skipExponent piece n := by
  obtain ⟨sign, hsplit, hsign⟩ := exists_sign t
  rw [readExponent] at h
  cases hbehind : (exponentSign t).2 with
  | nil =>
    simp only [hbehind] at h
    exact nomatch h
  | cons d t' =>
    simp only [hbehind] at h
    by_cases hd : Text.isDigit d = true
    · obtain ⟨digits, after, hdt, hdigits, hafter⟩ := exists_digits (t := t') hd
      obtain ⟨htake, hdrop⟩ := takeWhile_isDigit hdigits hafter
      rw [← hdt] at htake hdrop
      simp only [hd, Bool.not_true, Bool.false_eq_true, if_false, htake, hdrop] at h
      obtain ⟨rfl, hread⟩ := finishExponent_ok h
      refine ⟨sign ++ d :: digits, by rw [hsplit, hbehind, hdt, List.append_assoc],
        fun rest' hrest' => ?_, fun rest' hrest' => ?_⟩
      · obtain ⟨htake', hdrop'⟩ := takeWhile_isDigit hdigits hrest'.digitless
        rw [List.cons_append] at htake' hdrop'
        rw [List.append_assoc, List.cons_append, readExponent, hsign d _ hd]
        simp only [hd, Bool.not_true, Bool.false_eq_true, if_false, htake', hdrop', hread]
      · obtain ⟨-, hdrop'⟩ := takeWhile_isDigit
          (fun c hc => hdigits c (List.mem_cons_of_mem d hc)) hrest'.digitless
        rw [List.append_assoc, List.cons_append, skipExponent, hsign d _ hd]
        simp only [hd, if_true, hdrop']
    · simp only [hd] at h
      exact nomatch h

/-! ### Scales and fractions -/

/-- The text goes on with an exponent. -/
def OpensExponent (t : Text) : Prop := t.head? = some 'e' ∨ t.head? = some 'E'

instance (t : Text) : Decidable (OpensExponent t) := inferInstanceAs (Decidable (_ ∨ _))

theorem Delimited.not_opensExponent {t : Text} (h : Delimited t) : ¬ OpensExponent t := by
  rintro (he | he)
  · exact h.head?_ne (by decide) he
  · exact h.head?_ne (by decide) he

theorem OpensExponent.append {t : Text} (h : OpensExponent t) (u : Text) :
    OpensExponent (t ++ u) := by
  rcases h with h | h
  · exact .inl (by rw [List.head?_append, h, Option.some_or])
  · exact .inr (by rw [List.head?_append, h, Option.some_or])

theorem opensExponent_cases {t : Text} (h : OpensExponent t) :
    ∃ c u, t = c :: u ∧ (c = 'e' ∨ c = 'E') := by
  rcases h with h | h
  · obtain ⟨u, rfl⟩ := List.head?_eq_some_iff.1 h
    exact ⟨'e', u, rfl, .inl rfl⟩
  · obtain ⟨u, rfl⟩ := List.head?_eq_some_iff.1 h
    exact ⟨'E', u, rfl, .inr rfl⟩

theorem readScaled_of_not {scale : Int} (h : ¬ OpensExponent t) :
    readScaled negative significand scale t = signedDouble negative significand scale t := by
  rw [readScaled]
  · rintro u rfl
    exact h (.inl rfl)
  · rintro u rfl
    exact h (.inr rfl)

theorem skipScale_of_not (h : ¬ OpensExponent t) : skipScale t = .ok t := by
  rw [skipScale]
  · rintro u rfl
    exact h (.inl rfl)
  · rintro u rfl
    exact h (.inr rfl)

/-- A scale is an exponent or nothing. -/
theorem scale_taken {scale : Int}
    (h : readScaled negative significand scale t = .ok (n, rest)) :
    ∃ piece, t = piece ++ rest ∧ (OpensExponent piece ∨ piece = [] ∧ ¬ OpensExponent t) ∧
      Taken (readScaled negative significand scale) skipScale piece n := by
  by_cases hexponent : OpensExponent t
  · obtain ⟨c, u, rfl, hc⟩ := opensExponent_cases hexponent
    have hread : readExponent negative significand scale u = .ok (n, rest) := by
      rcases hc with rfl | rfl
      · exact h
      · exact h
    obtain ⟨piece, rfl, htaken⟩ := exponent_taken hread
    refine ⟨c :: piece, rfl, .inl (hc.imp (congrArg some) (congrArg some)), ?_⟩
    rcases hc with rfl | rfl
    · exact ⟨htaken.reads, htaken.skips⟩
    · exact ⟨htaken.reads, htaken.skips⟩
  · rw [readScaled_of_not hexponent] at h
    obtain ⟨rfl, hread⟩ := signedDouble_ok h
    refine ⟨[], rfl, .inr ⟨rfl, hexponent⟩, fun rest' hrest' => ?_, fun rest' hrest' => ?_⟩
    · rw [List.nil_append, readScaled_of_not hrest'.not_opensExponent, hread]
    · rw [List.nil_append, skipScale_of_not hrest'.not_opensExponent]

theorem fraction_taken {scale : Int}
    (h : readFraction negative significand scale t = .ok (n, rest)) :
    ∃ piece, t = piece ++ rest ∧
      Taken (readFraction negative significand scale) skipFraction piece n := by
  cases t with
  | nil => exact nomatch h
  | cons d t' =>
    by_cases hd : Text.isDigit d = true
    · obtain ⟨digits, after, hdt, hdigits, hafter⟩ := exists_digits (t := t') hd
      obtain ⟨htake, hdrop⟩ := takeWhile_isDigit hdigits hafter
      rw [hdt] at h ⊢
      simp only [readFraction, htake, hdrop] at h
      obtain ⟨piece, rfl, -, htaken⟩ := scale_taken h
      refine ⟨d :: digits ++ piece, by rw [List.append_assoc], fun rest' hrest' => ?_,
        fun rest' hrest' => ?_⟩
      · obtain ⟨htake', hdrop'⟩ := takeWhile_isDigit hdigits (hafter.delimit hrest')
        rw [List.append_assoc]
        simp only [readFraction, htake', hdrop', htaken.reads rest' hrest']
      · obtain ⟨-, hdrop'⟩ := takeWhile_isDigit
          (fun c hc => hdigits c (List.mem_cons_of_mem d hc)) (hafter.delimit hrest')
        rw [List.append_assoc, List.cons_append, skipFraction, if_pos hd, hdrop',
          htaken.skips rest' hrest']
    · have htake : (d :: t').takeWhile Text.isDigit = [] := by simp [hd]
      have hdrop : (d :: t').dropWhile Text.isDigit = d :: t' := by simp [hd]
      simp only [readFraction, htake, hdrop] at h
      exact nomatch h

/-! ### What stands behind the digits -/

/-- Reads what stands behind the digits of a number: a fraction, a scale or nothing. -/
def readBehind (negative : Bool) (digits t : Text) : Except Fault (Number × Text) :=
  match t with
  | '.' :: rest => readFraction negative (gather 0 digits).1 (gather 0 digits).2.length rest
  | _ =>
    if (gather 0 digits).2 = [] ∧ ¬ OpensExponent t then
      wholeNumber negative (gather 0 digits).1 t
    else readScaled negative (gather 0 digits).1 (gather 0 digits).2.length t

/-- Passes over what stands behind the digits of a number. -/
def skipBehind (t : Text) : Except Fault Text :=
  match t with
  | '.' :: rest => skipFraction rest
  | rest => skipScale rest

theorem readBehind_of_not {digits : Text} (h : t.head? ≠ some '.') :
    readBehind negative digits t =
      if (gather 0 digits).2 = [] ∧ ¬ OpensExponent t then
        wholeNumber negative (gather 0 digits).1 t
      else readScaled negative (gather 0 digits).1 (gather 0 digits).2.length t := by
  rw [readBehind]
  rintro u rfl
  exact h rfl

theorem skipBehind_of_not (h : t.head? ≠ some '.') : skipBehind t = skipScale t := by
  rw [skipBehind]
  rintro u rfl
  exact h rfl

theorem behind_taken {digits : Text} (h : readBehind negative digits t = .ok (n, rest)) :
    ∃ piece, t = piece ++ rest ∧ Taken (readBehind negative digits) skipBehind piece n := by
  by_cases hpoint : t.head? = some '.'
  · obtain ⟨u, rfl⟩ := List.head?_eq_some_iff.1 hpoint
    obtain ⟨piece, rfl, htaken⟩ := fraction_taken h
    exact ⟨'.' :: piece, rfl, htaken.reads, htaken.skips⟩
  rw [readBehind_of_not hpoint] at h
  split_ifs at h with hwhole
  · obtain ⟨rfl, hread⟩ := wholeNumber_ok h
    refine ⟨[], rfl, fun rest' hrest' => ?_, fun rest' hrest' => ?_⟩
    · rw [List.nil_append, readBehind_of_not (hrest'.head?_ne (by decide)),
        if_pos ⟨hwhole.1, hrest'.not_opensExponent⟩, hread]
    · rw [List.nil_append, skipBehind_of_not (hrest'.head?_ne (by decide)),
        skipScale_of_not hrest'.not_opensExponent]
  · obtain ⟨piece, rfl, hopens, htaken⟩ := scale_taken h
    -- Neither a point nor the loss of the exponent can turn up with another delimiter.
    have hnot (rest' : Text) (hrest' : Delimited rest') : (piece ++ rest').head? ≠ some '.' := by
      cases piece with
      | nil => exact hrest'.head?_ne (by decide)
      | cons c piece => exact hpoint
    have hscaled (rest' : Text) :
        ¬ ((gather 0 digits).2 = [] ∧ ¬ OpensExponent (piece ++ rest')) := by
      rintro ⟨hfits, hplain⟩
      rcases hopens with hopens | ⟨rfl, hnone⟩
      · exact hplain (hopens.append rest')
      · exact hwhole ⟨hfits, hnone⟩
    refine ⟨piece, rfl, fun rest' hrest' => ?_, fun rest' hrest' => ?_⟩
    · rw [readBehind_of_not (hnot rest' hrest'), if_neg (hscaled rest'),
        htaken.reads rest' hrest']
    · rw [skipBehind_of_not (hnot rest' hrest'), htaken.skips rest' hrest']

/-! ### Whole numbers -/

section Digits

variable {c : Char} {digits after : Text}

/-- The digits are not a zero with more digits behind it. -/
def NoLeadingZero (c : Char) (digits : Text) : Prop := c = '0' → digits = []

theorem leadingZero_iff (hdigits : ∀ d ∈ c :: digits, Text.isDigit d = true)
    (hafter : Digitless after) :
    (c = '0' && ((digits ++ after).head?.map Text.isDigit).getD false) = true ↔
      ¬ NoLeadingZero c digits := by
  cases digits with
  | nil =>
    cases hhead : after.head? with
    | none => simp [NoLeadingZero, hhead]
    | some d => simp [NoLeadingZero, hhead, hafter d hhead]
  | cons d digits =>
    have hd : Text.isDigit d = true := hdigits d (by simp)
    simp [NoLeadingZero, hd]

/-- The digits of a number are read up to what stands behind them. -/
theorem readNumber_digits (hdigits : ∀ d ∈ c :: digits, Text.isDigit d = true)
    (hzero : NoLeadingZero c digits) (hafter : Digitless after) :
    readNumber negative (c :: digits ++ after) = readBehind negative (c :: digits) after := by
  obtain ⟨htake, hdrop⟩ := takeWhile_isDigit hdigits hafter
  have hc : Text.isDigit c = true := hdigits c List.mem_cons_self
  have hlead := mt (leadingZero_iff hdigits hafter).1 (not_not_intro hzero)
  rw [List.cons_append] at htake hdrop ⊢
  simp only [readNumber, hc, Bool.not_true, Bool.false_eq_true, if_false, hlead, htake, hdrop,
    readBehind]
  split
  · rfl
  · simp [OpensExponent]

/-- The digits of a number are passed over up to what stands behind them. -/
theorem skipNumber_digits (hdigits : ∀ d ∈ c :: digits, Text.isDigit d = true)
    (hzero : NoLeadingZero c digits) (hafter : Digitless after) :
    skipNumber (c :: digits ++ after) = skipBehind after := by
  obtain ⟨-, hdrop⟩ := takeWhile_isDigit hdigits hafter
  have hc : Text.isDigit c = true := hdigits c List.mem_cons_self
  have hlead := mt (leadingZero_iff hdigits hafter).1 (not_not_intro hzero)
  rw [List.cons_append] at hdrop ⊢
  simp only [skipNumber, hc, Bool.not_true, Bool.false_eq_true, if_false, hlead, hdrop]
  rfl

/-- A number that is read has no leading zero. -/
theorem noLeadingZero_of_readNumber (hdigits : ∀ d ∈ c :: digits, Text.isDigit d = true)
    (hafter : Digitless after) (h : readNumber negative (c :: digits ++ after) = .ok (n, rest)) :
    NoLeadingZero c digits := by
  refine Classical.byContradiction fun hzero => ?_
  have hc : Text.isDigit c = true := hdigits c List.mem_cons_self
  have hlead := (leadingZero_iff hdigits hafter).2 hzero
  simp only [List.cons_append, readNumber, hc, Bool.not_true, Bool.false_eq_true, if_false, hlead,
    if_true] at h
  cases h

end Digits

/-- A number that is read starts with a run of digits. -/
theorem exists_digits_of_readNumber (h : readNumber negative t = .ok (n, rest)) :
    ∃ c digits after, t = c :: digits ++ after ∧ (∀ d ∈ c :: digits, Text.isDigit d = true) ∧
      Digitless after ∧ NoLeadingZero c digits := by
  cases t with
  | nil => cases h
  | cons c t' =>
    by_cases hc : Text.isDigit c = true
    · obtain ⟨digits, after, hct, hdigits, hafter⟩ := exists_digits (t := t') hc
      rw [hct] at h
      exact ⟨c, digits, after, hct, hdigits, hafter,
        noLeadingZero_of_readNumber hdigits hafter h⟩
    · simp only [readNumber, hc] at h
      cases h

/-- **What is read as a number is taken.** -/
theorem number_taken (h : readNumber negative t = .ok (n, rest)) :
    ∃ piece, t = piece ++ rest ∧ Taken (readNumber negative) skipNumber piece n := by
  obtain ⟨c, digits, after, rfl, hdigits, hafter, hzero⟩ := exists_digits_of_readNumber h
  rw [readNumber_digits hdigits hzero hafter] at h
  obtain ⟨piece, rfl, htaken⟩ := behind_taken h
  refine ⟨c :: digits ++ piece, by rw [List.append_assoc], fun rest' hrest' => ?_,
    fun rest' hrest' => ?_⟩
  · rw [List.append_assoc, readNumber_digits hdigits hzero (hafter.delimit hrest'),
      htaken.reads rest' hrest']
  · rw [List.append_assoc, skipNumber_digits hdigits hzero (hafter.delimit hrest'),
      htaken.skips rest' hrest']

end Numbers

end Roster.Json
