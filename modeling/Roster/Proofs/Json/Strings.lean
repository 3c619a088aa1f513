import Mathlib.Tactic.SplitIfs
import Roster.Json.Token
import Roster.Json.Value

/-!
# String literals are read back

Writing a string cuts it into fragments; reading it goes character by character. The two meet in the
closed form `literal`, in which every character is written by itself.

**Theorem (`quote_asciiFragment`).** The fragments do not show: the ASCII form of a string is the
concatenation of the ASCII forms of its characters.

**Theorem (`readString_asciiChar`).** The ASCII form of a string is read back as the string.

A character is read back by one round of `readCharacters`, whatever its form is: the character itself,
a short escape, the escape of its code unit, or the escapes of a pair of surrogates.
-/

namespace Roster.Json

/-! ## Fragments -/

theorem asciiFragment_eq (plain t : Text) :
    asciiFragment plain t =
      plain.reverse ++ t.flatMap fun c => if isPrintableAscii c then [c] else escapeUnits c := by
  induction t generalizing plain with
  | nil => simp [asciiFragment]
  | cons c t ih =>
    rw [asciiFragment]
    by_cases hc : isPrintableAscii c = true
    · simp [hc, ih]
    · simp [hc, ih]

/-- Between the demanded escapes it does not matter where a fragment starts, if fragments are
written character by character. -/
theorem contents_eq {fragment : Text → Text} {char : Char → Text}
    (hfragment : ∀ t, fragment t = t.flatMap char) (pending t : Text) :
    contents fragment pending t =
      pending.reverse.flatMap char ++ t.flatMap fun c => (demanded? c).getD (char c) := by
  have hwrite : ∀ pending, writeFragment fragment pending = pending.reverse.flatMap char := by
    intro pending
    rw [writeFragment]
    cases pending with
    | nil => rfl
    | cons c pending => exact hfragment _
  induction t generalizing pending with
  | nil => rw [contents, hwrite, List.flatMap_nil, List.append_nil]
  | cons c t ih =>
    rw [contents, List.flatMap_cons]
    cases hc : demanded? c with
    | some escape =>
      simp only [hwrite, ih, Option.getD_some, List.reverse_nil, List.flatMap_nil, List.nil_append,
        List.append_assoc]
    | none =>
      simp only [ih, Option.getD_none, List.reverse_cons, List.flatMap_append, List.flatMap_cons,
        List.flatMap_nil, List.append_nil, List.append_assoc]

theorem quote_asciiFragment (t : Text) : quote (asciiFragment []) t = literal asciiChar t := by
  rw [quote, contents_eq (asciiFragment_eq []), literal]
  rfl

theorem quote_id (t : Text) : quote id t = literal plainChar t := by
  have hplain : ∀ t : Text, id t = t.flatMap fun c => [c] := by simp
  rw [quote, contents_eq hplain, literal]
  rfl

/-! ## Code units -/

theorem hexValue?_hexDigit {d : Nat} (hd : d < 16) : Text.hexValue? (Text.hexDigit d) = some d := by
  have hall : ∀ d : Fin 16, Text.hexValue? (Text.hexDigit d) = some d.val := by decide
  exact hall ⟨d, hd⟩

theorem readUnit_unitDigits {unit : Nat} (h : unit < 0x10000) (rest : Text) :
    readUnit (unitDigits unit ++ rest) = .ok (unit, rest) := by
  have hunit : 4096 * (unit / 4096 % 16) + 256 * (unit / 256 % 16) + 16 * (unit / 16 % 16) +
      unit % 16 = unit := by omega
  simp only [unitDigits, List.cons_append, List.nil_append, readUnit,
    hexValue?_hexDigit (Nat.mod_lt _ (by decide : 0 < 16)), hunit]

theorem readUnitEscape_single {unit : Nat} (h : unit < 0x10000)
    (hunit : unit < 0xD800 ∨ 0xDFFF < unit) (rest : Text) :
    readUnitEscape (unitDigits unit ++ rest) = .ok (Char.ofNat unit, rest) := by
  have hlow : isLowSurrogate unit = false := by
    simp only [isLowSurrogate, Bool.and_eq_false_iff, decide_eq_false_iff_not]
    omega
  have hhigh : isHighSurrogate unit = false := by
    simp only [isHighSurrogate, Bool.and_eq_false_iff, decide_eq_false_iff_not]
    omega
  simp only [readUnitEscape, readUnit_unitDigits h, bind, Except.bind, hlow, hhigh,
    Bool.false_eq_true, if_false]

theorem readUnitEscape_pair {high low : Nat} (hhigh : isHighSurrogate high = true)
    (hlow : isLowSurrogate low = true) (rest : Text) :
    readUnitEscape (unitDigits high ++ (unitEscape low ++ rest)) =
      .ok (Char.ofNat (0x10000 + 0x400 * (high - 0xD800) + (low - 0xDC00)), rest) := by
  have hhigh_range : 0xD800 ≤ high ∧ high ≤ 0xDBFF := by simpa [isHighSurrogate] using hhigh
  have hlow_range : 0xDC00 ≤ low ∧ low ≤ 0xDFFF := by simpa [isLowSurrogate] using hlow
  have hnot : isLowSurrogate high = false := by
    simp only [isLowSurrogate, Bool.and_eq_false_iff, decide_eq_false_iff_not]
    omega
  have hhigh_lt : high < 0x10000 := by omega
  have hlow_lt : low < 0x10000 := by omega
  simp only [readUnitEscape, unitEscape, List.cons_append, readUnit_unitDigits hhigh_lt,
    readUnit_unitDigits hlow_lt, hnot, hhigh, hlow, bind, Except.bind, if_true,
    Bool.false_eq_true, if_false]

/-- The code points that a character may have leave the surrogates out. -/
theorem toNat_valid (c : Char) : c.toNat < 0xD800 ∨ 0xDFFF < c.toNat ∧ c.toNat < 0x110000 := by
  have hvalid := c.valid
  simp only [UInt32.isValidChar, Nat.isValidChar] at hvalid
  exact hvalid

theorem readEscape_single {c : Char} (h : c.toNat < 0x10000) (rest : Text) :
    readEscape ('u' :: unitDigits c.toNat ++ rest) = .ok (c, rest) := by
  have hvalid := toNat_valid c
  have hread := readUnitEscape_single h (by omega) rest
  rw [Char.ofNat_toNat] at hread
  exact hread

theorem readEscape_pair {c : Char} (h : 0x10000 ≤ c.toNat) (rest : Text) :
    readEscape ('u' :: unitDigits (0xD800 + (c.toNat - 0x10000) / 0x400) ++
      (unitEscape (0xDC00 + (c.toNat - 0x10000) % 0x400) ++ rest)) = .ok (c, rest) := by
  have hvalid := toNat_valid c
  have hhigh : isHighSurrogate (0xD800 + (c.toNat - 0x10000) / 0x400) = true := by
    simp only [isHighSurrogate, Bool.and_eq_true, decide_eq_true_eq]
    omega
  have hlow : isLowSurrogate (0xDC00 + (c.toNat - 0x10000) % 0x400) = true := by
    simp only [isLowSurrogate, Bool.and_eq_true, decide_eq_true_eq]
    omega
  have hjoin : 0x10000 + 0x400 * (0xD800 + (c.toNat - 0x10000) / 0x400 - 0xD800) +
      (0xDC00 + (c.toNat - 0x10000) % 0x400 - 0xDC00) = c.toNat := by omega
  have hread := readUnitEscape_pair hhigh hlow rest
  rw [hjoin, Char.ofNat_toNat] at hread
  exact hread

/-! ## Characters -/

/-- One round of reading: a character in front of those that the other rounds read. -/
def readThen (c : Char) (others : Except Fault (Text × Text)) : Except Fault (Text × Text) := do
  let (cs, after) ← others
  .ok (c :: cs, after)

theorem readCharacters_escape {escape t after : Text} {c : Char}
    (h : readEscape (escape ++ t) = .ok (c, after)) (k : Char) (clock : Text) :
    readCharacters (k :: clock) ('\\' :: escape ++ t) =
      readThen c (readCharacters clock after) := by
  rw [List.cons_append, readCharacters, h]
  rfl

theorem readCharacters_printable {c : Char} (hc : demanded? c = none)
    (k : Char) (clock t : Text) :
    readCharacters (k :: clock) (c :: t) = readThen c (readCharacters clock t) := by
  have hquote : c ≠ '"' := by
    rintro rfl
    exact nomatch hc
  have hslash : c ≠ '\\' := by
    rintro rfl
    exact nomatch hc
  have hcontrol : ¬ c.toNat < 0x20 := by
    intro hlt
    simp only [demanded?, hlt, if_true] at hc
    split_ifs at hc
  rw [readCharacters, if_neg hcontrol]
  · rfl
  · exact hquote
  · exact hslash

theorem readEscape_demanded {c : Char} {escape : Text} (h : demanded? c = some escape)
    (t : Text) :
    ∃ rest, escape = '\\' :: rest ∧ readEscape (rest ++ t) = .ok (c, t) := by
  rw [demanded?] at h
  split_ifs at h with hquote hslash h8 hc hn hr ht hcontrol
  all_goals obtain rfl := Option.some.inj h
  rotate_right
  · exact ⟨_, rfl, readEscape_single (by omega) t⟩
  -- The others are short escapes of one character each.
  all_goals
    subst c
    exact ⟨_, rfl, rfl⟩

theorem readEscape_escapeUnits (c : Char) (t : Text) :
    ∃ escape, escapeUnits c = '\\' :: escape ∧ readEscape (escape ++ t) = .ok (c, t) := by
  by_cases hc : c.toNat < 0x10000
  · refine ⟨'u' :: unitDigits c.toNat, ?_, readEscape_single hc t⟩
    simp [escapeUnits, units, hc, unitEscape]
  · refine ⟨'u' :: unitDigits (0xD800 + (c.toNat - 0x10000) / 0x400) ++
      unitEscape (0xDC00 + (c.toNat - 0x10000) % 0x400), ?_, ?_⟩
    · simp [escapeUnits, units, hc, unitEscape]
    · rw [List.append_assoc]
      exact readEscape_pair (by omega) t

/-- The ASCII form of a character is read back in one round. -/
theorem readCharacters_asciiChar (c k : Char) (clock t : Text) :
    readCharacters (k :: clock) (asciiChar c ++ t) = readThen c (readCharacters clock t) := by
  rw [asciiChar]
  cases hc : demanded? c with
  | some escape =>
    obtain ⟨rest, hescape, hread⟩ := readEscape_demanded hc t
    rw [Option.getD_some, hescape]
    exact readCharacters_escape hread k clock
  | none =>
    rw [Option.getD_none]
    by_cases hprint : isPrintableAscii c = true
    · rw [if_pos hprint]
      exact readCharacters_printable hc k clock t
    · obtain ⟨escape, hescape, hread⟩ := readEscape_escapeUnits c t
      rw [if_neg hprint, hescape]
      exact readCharacters_escape hread k clock

theorem asciiChar_ne_nil (c : Char) : asciiChar c ≠ [] := by
  intro hnil
  have hread := readCharacters_asciiChar c c [] []
  have hempty := readCharacters_asciiChar c c ['"'] ['"']
  rw [hnil] at hread hempty
  exact nomatch hempty

/-! ## Strings -/

/-- The rounds read a string back if there is one for each character and one for the quote. -/
theorem readCharacters_flatMap (t rest : Text) {clock : Text} (h : t.length < clock.length) :
    readCharacters clock (t.flatMap asciiChar ++ '"' :: rest) = .ok (t, rest) := by
  induction t generalizing clock with
  | nil =>
    cases clock with
    | nil => exact absurd h (Nat.not_lt_zero _)
    | cons k clock => rfl
  | cons c t ih =>
    cases clock with
    | nil => exact absurd h (Nat.not_lt_zero _)
    | cons k clock =>
      rw [List.flatMap_cons, List.append_assoc, readCharacters_asciiChar,
        ih (Nat.lt_of_succ_lt_succ h)]
      rfl

theorem length_le_flatMap (t : Text) : t.length ≤ (t.flatMap asciiChar).length := by
  induction t with
  | nil => exact Nat.le_refl _
  | cons c t ih =>
    have hpos : 0 < (asciiChar c).length := List.length_pos_iff.2 (asciiChar_ne_nil c)
    rw [List.flatMap_cons, List.length_append, List.length_cons]
    omega

/-- **The ASCII form of a string is read back.** -/
theorem readString_asciiChar (t rest : Text) :
    readString (t.flatMap asciiChar ++ '"' :: rest) = .ok (t, rest) := by
  refine readCharacters_flatMap t rest ?_
  have hlength := length_le_flatMap t
  rw [List.length_cons, List.length_append]
  omega

end Roster.Json
