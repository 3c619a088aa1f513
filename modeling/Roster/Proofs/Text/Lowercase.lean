import Mathlib.Data.List.Infix
import Mathlib.Tactic.SplitIfs
import Roster.Proofs.Text.Trimming
import Roster.Text.Lowercase

/-!
# Laws of lower case

A text is written in lower case character by character, with one exception: the small sigma has a
final form, and whether it is used depends on the text around it.

* `unfinal` gives up the final form.
* `lowered` is the lower case of one character, whatever stands around it.

**Theorem (`map_unfinal_lowercase`).** But for the final form of sigma, the lower case of a text is
put together from the lower case of its characters.

**Theorem (`infix_lowercase`).** What a text mentions in lower case is mentioned by all texts that
the text is a piece of.

**Theorem (`isBlank_of_mem_lowered`, `head?_lowercase_iff`).** White space and closing brackets are
the lower case of themselves only.

The last ones are read off the table of small letters: no run of capitals, and no run of their small
letters, reaches a code point of `uncased`.
-/

namespace Roster.Text

variable {t u mark : Text}

/-! ## Letters of ASCII -/

theorem le_iff_toNat_le (a b : Char) : a ≤ b ↔ a.toNat ≤ b.toNat :=
  Char.le_def.trans UInt32.le_iff_toNat_le

theorem toNat_toLower (c : Char) :
    c.toLower.toNat = if 65 ≤ c.toNat ∧ c.toNat ≤ 90 then c.toNat + 32 else c.toNat := by
  have hupper : c.val ≥ 'A'.val ∧ c.val ≤ 'Z'.val ↔ 65 ≤ c.toNat ∧ c.toNat ≤ 90 := by
    simp only [ge_iff_le, UInt32.le_iff_toNat_le]
    rfl
  by_cases h : c.val ≥ 'A'.val ∧ c.val ≤ 'Z'.val
  · have hlower : c.toLower.val = c.val + ('a'.val - 'A'.val) := congrArg Char.val (dif_pos h)
    have hshift : ('a'.val - 'A'.val).toNat = 32 := by decide
    have hle : c.val.toNat ≤ 90 := (hupper.1 h).2
    rw [if_pos (hupper.1 h)]
    show c.toLower.val.toNat = c.val.toNat + 32
    rw [hlower, UInt32.toNat_add]
    omega
  · rw [if_neg fun h' => h (hupper.2 h')]
    exact congrArg Char.toNat (dif_neg h)

theorem toLower_of_not_ascii {c : Char} (h : 0x80 ≤ c.toNat) : c.toLower = c := by
  rw [← Char.toNat_inj, toNat_toLower]
  split_ifs <;> omega

/-! ## Characters without case -/

namespace Case

/-- The code points of white space and of closing brackets. -/
def uncased : List Nat :=
  [0x09, 0x0A, 0x0B, 0x0C, 0x0D, 0x20, 0x5D, 0x7D, 0x85, 0xA0, 0x1680, 0x2000, 0x2001, 0x2002,
    0x2003, 0x2004, 0x2005, 0x2006, 0x2007, 0x2008, 0x2009, 0x200A, 0x2028, 0x2029, 0x202F, 0x205F,
    0x3000]

/-- Neither a capital of the run nor one of its small letters has the code point. -/
def Run.avoids (r : Run) (n : Nat) : Prop :=
  (n < r.first ∨ r.last < n) ∧ (n < r.small ∨ r.small + (r.last - r.first) < n)

instance (r : Run) (n : Nat) : Decidable (r.avoids n) := inferInstanceAs (Decidable (_ ∧ _))

theorem avoids_of_mem_uncased : ∀ r ∈ runs, ∀ n ∈ uncased, r.avoids n := by decide +kernel

theorem toNat_of_ofNat {m : Nat} {d : Char} (hd : 0 < d.toNat) (h : Char.ofNat m = d) :
    d.toNat = m := by
  subst h
  by_cases hvalid : m.isValidChar
  · exact congrArg Char.toNat (dif_pos hvalid)
  · have hzero : (Char.ofNat m).toNat = 0 := congrArg Char.toNat (dif_neg hvalid)
    omega

/-- **A character without case is the small letter of itself only.** -/
theorem small_eq_iff {d : Char} (hd : d.toNat ∈ uncased) (c : Char) : small c = d ↔ c = d := by
  have hpos : 0 < d.toNat := by
    have hall : ∀ n ∈ uncased, 0 < n := by decide
    exact hall _ hd
  have hletter : ¬ (65 ≤ d.toNat ∧ d.toNat ≤ 90) ∧ ¬ (97 ≤ d.toNat ∧ d.toNat ≤ 122) := by
    have hall : ∀ n ∈ uncased, ¬ (65 ≤ n ∧ n ≤ 90) ∧ ¬ (97 ≤ n ∧ n ≤ 122) := by decide
    exact hall _ hd
  unfold small
  split_ifs with hascii
  · rw [← Char.toNat_inj, ← Char.toNat_inj (c := c), toNat_toLower]
    split_ifs <;> omega
  -- What is not of ASCII is looked up in the table, and no run of it reaches the code point.
  cases hrun : runs.find? _ with
  | none => rfl
  | some r =>
    have hmem := List.mem_of_find?_eq_some hrun
    have hin := List.find?_some hrun
    obtain ⟨hcapital, hsmall⟩ := avoids_of_mem_uncased r hmem _ hd
    simp only [Bool.and_eq_true, decide_eq_true_eq] at hin
    constructor
    · intro h
      have hnat := toNat_of_ofNat hpos h
      omega
    · rintro rfl
      omega

theorem mem_uncased_of_blank {c : Char} (h : isBlank c = true) : c.toNat ∈ uncased := by
  rw [isBlank_iff] at h
  simp only [uncased, List.mem_cons, List.not_mem_nil, or_false]
  omega

theorem isBlank_small (c : Char) : isBlank (small c) = isBlank c := by
  rw [Bool.eq_iff_iff]
  constructor
  · intro h
    have heq := (small_eq_iff (mem_uncased_of_blank h) c).1 rfl
    rwa [← heq] at h
  · intro h
    rwa [(small_eq_iff (mem_uncased_of_blank h) c).2 rfl]

end Case

/-! ## Sigma -/

/-- The small sigma in its ordinary form. -/
def unfinal (c : Char) : Char := if c = 'ς' then 'σ' else c

/-- The lower case of a character, whatever stands around it. -/
def lowered (c : Char) : Text := if c = 'İ' then ['i', '\u0307'] else [unfinal (Case.small c)]

theorem isBlank_unfinal (c : Char) : isBlank (unfinal c) = isBlank c := by
  unfold unfinal
  split_ifs with h
  · rw [h]
    decide
  · rfl

theorem map_unfinal_lowercaseAt (before : Text) (c : Char) (following : Text) :
    (lowercaseAt before c following).map unfinal = lowered c := by
  unfold lowercaseAt lowered
  by_cases hdot : c = 'İ'
  · rw [if_pos hdot, if_pos hdot]
    rfl
  rw [if_neg hdot, if_neg hdot]
  by_cases hsigma : c = 'Σ'
  · have hsmall : Case.small 'Σ' = 'σ' := by decide
    rw [if_pos hsigma, hsigma, hsmall]
    split_ifs <;> rfl
  · rw [if_neg hsigma]
    rfl

theorem map_unfinal_lowercaseAfter (before t : Text) :
    (lowercaseAfter before t).map unfinal = t.flatMap lowered := by
  induction t generalizing before with
  | nil => rfl
  | cons c rest ih =>
    rw [lowercaseAfter, List.map_append, map_unfinal_lowercaseAt, ih, List.flatMap_cons]

/-- **But for the final form of sigma, lower case is written character by character.** -/
theorem map_unfinal_lowercase (t : Text) : (lowercase t).map unfinal = t.flatMap lowered :=
  map_unfinal_lowercaseAfter [] t

theorem lowered_ne_nil (c : Char) : lowered c ≠ [] := by
  unfold lowered
  split_ifs <;> simp

/-- White space is the lower case of white space only. -/
theorem isBlank_of_mem_lowered {c d : Char} (h : d ∈ lowered c) : isBlank d = isBlank c := by
  unfold lowered at h
  by_cases hdot : c = 'İ'
  · subst hdot
    rw [if_pos rfl, List.mem_cons, List.mem_singleton] at h
    rcases h with rfl | rfl <;> decide
  · rw [if_neg hdot, List.mem_singleton] at h
    rw [h, isBlank_unfinal, Case.isBlank_small]

theorem lowered_of_uncased {c : Char} (h : c.toNat ∈ Case.uncased) : lowered c = [c] := by
  have hdot : c ≠ 'İ' := by
    rintro rfl
    exact absurd h (by decide)
  have hsigma : c ≠ 'ς' := by
    rintro rfl
    exact absurd h (by decide)
  rw [lowered, if_neg hdot, (Case.small_eq_iff h c).2 rfl, unfinal, if_neg hsigma]

theorem lowered_of_blank {c : Char} (h : isBlank c = true) : lowered c = [c] :=
  lowered_of_uncased (Case.mem_uncased_of_blank h)

theorem lowered_of_ascii {c : Char} (h : c.toNat < 0x80) : lowered c = [c.toLower] := by
  have hdot : c ≠ 'İ' := by
    rintro rfl
    exact absurd h (by decide)
  have hsigma : c.toLower ≠ 'ς' := by
    intro heq
    have hnat := congrArg Char.toNat heq
    rw [toNat_toLower, show 'ς'.toNat = 0x3C2 from rfl] at hnat
    split_ifs at hnat <;> omega
  rw [lowered, if_neg hdot, Case.small, if_pos h, unfinal, if_neg hsigma]

/-- The case of a letter of ASCII does not matter. -/
theorem lowered_toLower (c : Char) : lowered c.toLower = lowered c := by
  by_cases h : c.toNat < 0x80
  · have hlower : c.toLower.toNat < 0x80 := by
      rw [toNat_toLower]
      split_ifs <;> omega
    have hagain : c.toLower.toLower = c.toLower := by
      rw [← Char.toNat_inj, toNat_toLower c.toLower, toNat_toLower c]
      split_ifs <;> omega
    rw [lowered_of_ascii hlower, lowered_of_ascii h, hagain]
  · rw [toLower_of_not_ascii (Nat.le_of_not_lt h)]

theorem allBlank_lowered (t : Text) : allBlank (t.flatMap lowered) = allBlank t := by
  rw [Bool.eq_iff_iff, allBlank_iff, allBlank_iff]
  constructor
  · intro h c hc
    obtain ⟨d, hd⟩ := List.exists_mem_of_ne_nil _ (lowered_ne_nil c)
    rw [← isBlank_of_mem_lowered hd]
    exact h d (List.mem_flatMap.2 ⟨c, hc, hd⟩)
  · intro h d hd
    obtain ⟨c, hc, hd⟩ := List.mem_flatMap.1 hd
    rw [isBlank_of_mem_lowered hd]
    exact h c hc

/-- **Trimming can be exchanged with lower case.** -/
theorem trim_lowered (t : Text) : trim (t.flatMap lowered) = (trim t).flatMap lowered := by
  apply trim_flatMap
  · intro c hc
    exact lowered_of_blank hc
  · exact lowered_ne_nil
  · intro c d hd
    exact isBlank_of_mem_lowered hd

/-! ## Marks -/

/-- The text holds no small sigma, in neither form. -/
def NoSigma (mark : Text) : Prop := 'σ' ∉ mark ∧ 'ς' ∉ mark

instance (mark : Text) : Decidable (NoSigma mark) := inferInstanceAs (Decidable (_ ∧ _))

/-- A text without sigma is not the ordinary form of another one. -/
theorem map_unfinal_eq_iff (h : NoSigma mark) : t.map unfinal = mark ↔ t = mark := by
  constructor
  · rintro rfl
    have hsame : ∀ c ∈ t, unfinal c = c := by
      intro c hc
      have hsigma : unfinal c ≠ 'σ' := by
        intro heq
        exact h.1 (heq ▸ List.mem_map_of_mem hc)
      unfold unfinal at hsigma ⊢
      split_ifs at hsigma ⊢ with hfinal
      · exact absurd rfl hsigma
      · rfl
    rw [List.map_congr_left hsame, List.map_id']
  · rintro rfl
    have hsame : ∀ c ∈ t, unfinal c = c := by
      intro c hc
      apply if_neg
      rintro rfl
      exact h.2 hc
    rw [List.map_congr_left hsame, List.map_id']

theorem infix_lowercase_iff (h : NoSigma mark) :
    mark <:+: lowercase t ↔ mark <:+: t.flatMap lowered := by
  rw [← map_unfinal_lowercase, List.infix_map_iff]
  constructor
  · intro hinside
    exact ⟨mark, hinside, ((map_unfinal_eq_iff h).2 rfl).symm⟩
  · rintro ⟨piece, hinside, hpiece⟩
    rwa [← (map_unfinal_eq_iff h).1 hpiece.symm]

/-- **What a text mentions in lower case is mentioned by all texts that it is a piece of.** -/
theorem infix_lowercase (h : NoSigma mark) (htu : t <:+: u) (ht : mark <:+: lowercase t) :
    mark <:+: lowercase u := by
  obtain ⟨front, back, rfl⟩ := htu
  rw [infix_lowercase_iff h] at ht ⊢
  rw [List.flatMap_append, List.flatMap_append]
  exact ht.trans (List.infix_append _ _ _)

theorem head?_lowered {d : Char} (hd : d.toNat ∈ Case.uncased) (c : Char) :
    (lowered c).head? = some d ↔ c = d := by
  constructor
  · intro h
    unfold lowered at h
    split_ifs at h with hdot
    · obtain rfl := Option.some.inj h
      exact absurd hd (by decide)
    · have hsmall : unfinal (Case.small c) = d := Option.some.inj h
      refine (Case.small_eq_iff hd c).1 ?_
      have hsigma : d ≠ 'σ' := by
        rintro rfl
        exact absurd hd (by decide)
      unfold unfinal at hsmall
      split_ifs at hsmall
      · exact absurd hsmall.symm hsigma
      · exact hsmall
  · rintro rfl
    rw [lowered_of_uncased hd]
    rfl

/-- **A closing bracket starts a text in lower case** exactly if it starts the text. -/
theorem head?_lowercase_iff {d : Char} (hd : d.toNat ∈ Case.uncased) (t : Text) :
    (lowercase t).head? = some d ↔ t.head? = some d := by
  have hsigma : NoSigma [d] := by
    constructor
    · intro hmem
      rw [← List.mem_singleton.1 hmem] at hd
      exact absurd hd (by decide)
    · intro hmem
      rw [← List.mem_singleton.1 hmem] at hd
      exact absurd hd (by decide)
  have hhead : (lowercase t).head? = some d ↔ (t.flatMap lowered).head? = some d := by
    rw [← map_unfinal_lowercase, List.head?_map]
    cases (lowercase t).head? with
    | none => simp
    | some c => simpa using (map_unfinal_eq_iff (t := [c]) hsigma).symm
  rw [hhead]
  cases t with
  | nil => rfl
  | cons c rest =>
    rw [List.flatMap_cons, List.head?_append_of_ne_nil _ (lowered_ne_nil c), head?_lowered hd]
    simp

end Roster.Text
