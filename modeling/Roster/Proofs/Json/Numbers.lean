import Roster.Json.Token
import Roster.Json.Value

/-!
# Whole numbers are read back

A whole number is written as its decimal digits. They are read back as long as the number fits a
machine word, because every digit that is gathered leaves the significand below the number.

**Theorem (`readScalar_whole`).** A whole number that fits a machine word is read back, if what
follows it cannot belong to a number.
-/

namespace Roster.Json

/-- What may follow a value in a written text: nothing, a comma or a line end. -/
def Ends (t : Text) : Prop := ∀ c ∈ t.head?, c = ',' ∨ c = '\n'

theorem ends_nil : Ends [] := fun _ h => nomatch h

theorem ends_comma (t : Text) : Ends (',' :: t) := fun _ h => .inl (Option.some.inj h).symm

theorem ends_newLine (level : Nat) (t : Text) : Ends (newLine level ++ t) :=
  fun _ h => .inr (Option.some.inj h).symm

theorem Ends.head?_ne {t : Text} (h : Ends t) {c : Char} (hcomma : c ≠ ',') (hline : c ≠ '\n') :
    t.head? ≠ some c := by
  intro hc
  rcases h c hc with hc | hc
  · exact hcomma hc
  · exact hline hc

/-! ## Digits -/

theorem isDigit_of_mem_ofNat {n : Nat} {c : Char} (h : c ∈ Text.ofNat n) :
    Text.isDigit c = true := by
  have hdigit := Nat.isDigit_of_mem_toDigits (by decide) (by decide) h
  simp only [Char.isDigit, Bool.and_eq_true, decide_eq_true_eq] at hdigit
  simp only [Text.isDigit, Bool.and_eq_true, decide_eq_true_eq]
  exact hdigit

theorem head?_ofNat_ne_zero {n : Nat} (h : n ≠ 0) : (Text.ofNat n).head? ≠ some '0' := by
  induction n using Nat.strongRecOn with
  | _ n ih =>
    by_cases hn : n < 10
    · rw [Text.ofNat, Nat.toDigits_of_lt_base hn, List.head?_cons]
      intro hzero
      exact h (Nat.digitChar_eq_zero.1 (Option.some.inj hzero))
    · have hle : 10 ≤ n := Nat.le_of_not_lt hn
      have hrec := ih (n / 10) (by omega) (by omega)
      rw [Text.ofNat] at hrec
      rw [Text.ofNat, Nat.toDigits_of_base_le (by decide) hle,
        List.head?_append, Option.or_of_isSome (List.isSome_head?.2 Nat.toDigits_ne_nil)]
      exact hrec

theorem ofNat_ne_nil (n : Nat) : Text.ofNat n ≠ [] := Nat.toDigits_ne_nil

/-- One more digit is gathered if the significand stays within a machine word. -/
theorem gather_append {significand n d : Nat} {t : Text} (h : gather significand t = (n, []))
    (hd : d < 10) (hle : 10 * n + d ≤ maxWhole) :
    gather significand (t ++ [d.digitChar]) = (10 * n + d, []) := by
  induction t generalizing significand with
  | nil =>
    obtain rfl := (Prod.mk.inj h).1
    have hvalue : d.digitChar.toNat - '0'.toNat = d := Nat.toNat_digitChar_sub_48_of_lt_ten hd
    rw [List.nil_append, gather, hvalue]
    simp only [if_pos hle, gather]
  | cons c t ih =>
    rw [gather] at h
    rw [List.cons_append, gather]
    by_cases hmore : 10 * significand + (c.toNat - '0'.toNat) ≤ maxWhole
    · simp only [if_pos hmore] at h ⊢
      exact ih h
    · simp only [if_neg hmore] at h
      exact nomatch (Prod.mk.inj h).2

theorem gather_ofNat {n : Nat} (h : n ≤ maxWhole) : gather 0 (Text.ofNat n) = (n, []) := by
  induction n using Nat.strongRecOn with
  | _ n ih =>
    by_cases hn : n < 10
    · rw [Text.ofNat, Nat.toDigits_of_lt_base hn]
      have hgather := gather_append (n := 0) (t := []) rfl hn (by omega)
      simpa using hgather
    · have hle : 10 ≤ n := Nat.le_of_not_lt hn
      have hrec := ih (n / 10) (by omega) (by omega)
      have hjoin : 10 * (n / 10) + n % 10 = n := Nat.div_add_mod n 10
      have hgather := gather_append hrec (Nat.mod_lt n (by decide)) (by omega)
      rw [hjoin, Text.ofNat] at hgather
      rw [Text.ofNat, Nat.toDigits_of_base_le (by decide) hle]
      exact hgather

/-! ## Numbers -/

/-- A run of digits is taken up to what follows, which must not start with a digit. -/
theorem takeWhile_isDigit {digits rest : Text} (h : ∀ c ∈ digits, Text.isDigit c = true)
    (hrest : ∀ c ∈ rest.head?, Text.isDigit c = false) :
    (digits ++ rest).takeWhile Text.isDigit = digits ∧
      (digits ++ rest).dropWhile Text.isDigit = rest := by
  rw [List.takeWhile_append_of_pos h, List.dropWhile_append_of_pos h]
  cases rest with
  | nil => exact ⟨List.append_nil _, rfl⟩
  | cons c rest =>
    have hc := hrest c rfl
    simp [hc]

theorem Ends.not_isDigit {t : Text} (h : Ends t) : ∀ c ∈ t.head?, Text.isDigit c = false := by
  intro c hc
  rcases h c hc with rfl | rfl
  · rfl
  · rfl

theorem leading_zero {n : Nat} {c : Char} {digits rest : Text} (h : Text.ofNat n = c :: digits)
    (hrest : Ends rest) :
    (c = '0' && ((digits ++ rest).head?.map Text.isDigit).getD false) = false := by
  by_cases hn : n = 0
  · subst hn
    obtain ⟨rfl, rfl⟩ := List.cons.inj (h.symm.trans (Nat.toDigits_zero 10))
    cases hhead : rest.head? with
    | none => simp [hhead]
    | some d =>
      rcases hrest d hhead with rfl | rfl
      · simp [hhead, Text.isDigit]
      · simp [hhead, Text.isDigit]
  · have hfirst := head?_ofNat_ne_zero hn
    rw [h, List.head?_cons] at hfirst
    have hc : c ≠ '0' := fun hc => hfirst (congrArg some hc)
    simp [hc]

/-- The digits of a machine word are read as a whole number. -/
theorem readNumber_ofNat (negative : Bool) {n : Nat} (h : n ≤ maxWhole) {rest : Text}
    (hrest : Ends rest) :
    readNumber negative (Text.ofNat n ++ rest) = wholeNumber negative n rest := by
  obtain ⟨htake, hdrop⟩ := takeWhile_isDigit (fun c => isDigit_of_mem_ofNat (n := n)) hrest.not_isDigit
  have hgather := gather_ofNat h
  cases hdigits : Text.ofNat n with
  | nil => exact absurd hdigits (ofNat_ne_nil n)
  | cons c digits =>
    rw [hdigits] at htake hdrop hgather
    rw [List.cons_append] at htake hdrop
    have hc : Text.isDigit c = true := isDigit_of_mem_ofNat (n := n) (hdigits ▸ List.mem_cons_self)
    have hpoint : ∀ t, rest ≠ '.' :: t := fun t ht =>
      hrest.head?_ne (c := '.') (by decide) (by decide) (by rw [ht, List.head?_cons])
    have hexponent : (rest.head? = some 'e' || rest.head? = some 'E') = false := by
      simp [hrest.head?_ne (c := 'e') (by decide) (by decide),
        hrest.head?_ne (c := 'E') (by decide) (by decide)]
    rw [List.cons_append, readNumber]
    simp only [hc, Bool.not_true, Bool.false_eq_true, if_false, leading_zero hdigits hrest, htake,
      hdrop, hgather, hexponent, List.isEmpty_nil, Bool.not_false, Bool.and_self, if_true]

/-! ## The text of a whole number -/

/-- **Whole numbers are read back.** -/
theorem readScalar_whole {n : Int} (hlow : -(maxBelowZero : Int) ≤ n) (hhigh : n ≤ maxWhole)
    {rest : Text} (hrest : Ends rest) :
    readScalar (Text.ofInt n ++ rest) = .ok (.number (.whole n), rest) := by
  cases n with
  | ofNat n =>
    have hn : n ≤ maxWhole := Int.ofNat_le.1 hhigh
    have hread := readNumber_ofNat false hn hrest
    rw [Text.ofInt]
    cases hdigits : Text.ofNat n with
    | nil => exact absurd hdigits (ofNat_ne_nil n)
    | cons c digits =>
      have hc : Text.isDigit c = true :=
        isDigit_of_mem_ofNat (n := n) (hdigits ▸ List.mem_cons_self)
      have hother : ∀ d, Text.isDigit d = false → c ≠ d := by
        rintro d hd rfl
        exact absurd hc (by simp [hd])
      rw [hdigits] at hread
      rw [List.cons_append] at hread ⊢
      rw [readScalar, if_pos hc, hread]
      · rfl
      all_goals exact hother _ (by decide)
  | negSucc n =>
    have hn : n + 1 ≤ maxBelowZero := by omega
    have hle : maxBelowZero ≤ maxWhole := by decide
    have hread := readNumber_ofNat true (Nat.le_trans hn hle) hrest
    have hwhole : wholeNumber true (n + 1) rest = .ok (.whole (-(n + 1 : Nat)), rest) := by
      simp [wholeNumber, hn]
    rw [Text.ofInt, List.cons_append, readScalar, hread, hwhole]
    rfl

end Roster.Json
