import Mathlib.Data.List.DropRight
import Roster.Text.Basic

/-!
# Laws of trimming

A trimmed text is what is left between the white space at the two ends, and there is only one such
piece.

* `Tight` says that a text neither starts nor ends with white space.

**Theorem (`exists_trim`, `trim_eq`).** A text is its trimmed form with white space around it, and
the trimmed form is the only tight text of which this can be said.

**Theorem (`trim_flatMap`).** Trimming can be exchanged with a change of single characters that
keeps white space and makes none.
-/

namespace Roster.Text

variable {t u : Text}

/-- The text neither starts nor ends with white space. -/
structure Tight (t : Text) : Prop where
  first : ∀ c ∈ t.head?, isBlank c = false
  last : ∀ c ∈ t.getLast?, isBlank c = false

/-- White space by its code points. -/
theorem isBlank_iff (c : Char) : isBlank c = true ↔ (9 ≤ c.toNat ∧ c.toNat ≤ 13) ∨ c.toNat = 0x20 ∨
    c.toNat = 0x85 ∨ c.toNat = 0xA0 ∨ c.toNat = 0x1680 ∨ (0x2000 ≤ c.toNat ∧ c.toNat ≤ 0x200A) ∨
      c.toNat = 0x2028 ∨ c.toNat = 0x2029 ∨ c.toNat = 0x202F ∨ c.toNat = 0x205F ∨
        c.toNat = 0x3000 := by
  simp only [isBlank, Bool.or_eq_true, Bool.and_eq_true, decide_eq_true_eq, or_assoc]

theorem allBlank_iff : allBlank t = true ↔ ∀ c ∈ t, isBlank c = true := List.all_eq_true

theorem allBlank_eq_false_iff : allBlank t = false ↔ ∃ c ∈ t, isBlank c = false := by
  simp [allBlank]

/-! ## The piece between the white space -/

theorem exists_trimStart (t : Text) :
    ∃ front, t = front ++ trimStart t ∧ ∀ c ∈ front, isBlank c = true := by
  refine ⟨t.takeWhile isBlank, List.takeWhile_append_dropWhile.symm, ?_⟩
  intro c hc
  exact List.mem_takeWhile_imp hc

theorem head?_trimStart (t : Text) : ∀ c ∈ (trimStart t).head?, isBlank c = false := by
  intro c hc
  have hhead := List.head?_dropWhile_not isBlank t
  rw [trimStart, Option.mem_def] at hc
  rwa [hc] at hhead

theorem trimEnd_isPrefix (t : Text) : trimEnd t <+: t := List.rdropWhile_prefix isBlank t

theorem tight_trim (t : Text) : Tight (trim t) where
  first := by
    intro c hc
    cases htrim : trim t with
    | nil => simp [htrim] at hc
    | cons d rest =>
      obtain ⟨back, hback⟩ : trim t <+: trimStart t := trimEnd_isPrefix (trimStart t)
      rw [htrim] at hc hback
      apply head?_trimStart t
      rw [← hback]
      exact hc
  last := by
    intro c hc
    have hhead := List.head?_dropWhile_not isBlank (trimStart t).reverse
    rw [trim, trimEnd, dropEndWhile, List.getLast?_reverse, Option.mem_def] at hc
    rwa [hc] at hhead

/-- **A text is its trimmed form with white space around it.** -/
theorem exists_trim (t : Text) :
    ∃ front back, t = front ++ (trim t ++ back) ∧ (∀ c ∈ front, isBlank c = true) ∧
      ∀ c ∈ back, isBlank c = true := by
  obtain ⟨front, ht, hfront⟩ := exists_trimStart t
  have hend : trim t ++ (trimStart t).rtakeWhile isBlank = trimStart t :=
    List.rdropWhile_append_rtakeWhile
  refine ⟨front, (trimStart t).rtakeWhile isBlank, ?_, hfront, ?_⟩
  · rw [hend]
    exact ht
  · intro c hc
    exact List.mem_rtakeWhile_imp hc

theorem trim_inside (t : Text) : trim t <:+: t := by
  obtain ⟨front, back, ht, -, -⟩ := exists_trim t
  exact ⟨front, back, by rw [List.append_assoc, ← ht]⟩

theorem trimStart_blanks_append {blanks : Text} (h : ∀ c ∈ blanks, isBlank c = true) (t : Text) :
    trimStart (blanks ++ t) = trimStart t :=
  List.dropWhile_append_of_pos h

theorem trimEnd_append_blanks {blanks : Text} (h : ∀ c ∈ blanks, isBlank c = true) (t : Text) :
    trimEnd (t ++ blanks) = trimEnd t := by
  have hblanks : ∀ c ∈ blanks.reverse, isBlank c = true := by simpa using h
  rw [trimEnd, dropEndWhile, List.reverse_append, List.dropWhile_append_of_pos hblanks]
  rfl

theorem trim_blanks_append {blanks : Text} (h : ∀ c ∈ blanks, isBlank c = true) (t : Text) :
    trim (blanks ++ t) = trim t := by
  rw [trim, trimStart_blanks_append h, trim]

theorem trim_of_blanks (h : ∀ c ∈ t, isBlank c = true) : trim t = [] := by
  have htrim := trim_blanks_append h []
  rwa [List.append_nil] at htrim

theorem trimStart_cons {c : Char} (h : isBlank c = false) (t : Text) :
    trimStart (c :: t) = c :: t :=
  List.dropWhile_cons_of_neg (by simp [h])

theorem trim_of_tight (h : Tight t) : trim t = t := by
  have hstart : trimStart t = t := by
    cases t with
    | nil => rfl
    | cons c rest => exact trimStart_cons (h.first c rfl) rest
  have hend : trimEnd t = t := by
    apply List.rdropWhile_eq_self_iff.2
    intro hne
    have hlast := h.last _ (List.getLast?_eq_some_getLast hne)
    simp [hlast]
  rw [trim, hstart, hend]

/-- **The trimmed form is the only tight text between white space.** -/
theorem trim_eq {front back : Text} (hfront : ∀ c ∈ front, isBlank c = true)
    (hback : ∀ c ∈ back, isBlank c = true) (h : Tight t) : trim (front ++ (t ++ back)) = t := by
  rw [trim_blanks_append hfront]
  cases t with
  | nil => exact trim_of_blanks hback
  | cons c rest =>
    have hc := h.first c rfl
    have htrim := trim_of_tight h
    rw [trim, trimStart_cons hc] at htrim
    rw [trim, List.cons_append, trimStart_cons hc, ← List.cons_append, trimEnd_append_blanks hback,
      htrim]

theorem trim_append_blanks {blanks : Text} (h : ∀ c ∈ blanks, isBlank c = true) (t : Text) :
    trim (t ++ blanks) = trim t := by
  obtain ⟨front, back, ht, hfront, hback⟩ := exists_trim t
  have hmore : ∀ c ∈ back ++ blanks, isBlank c = true := by
    intro c hc
    exact (List.mem_append.1 hc).elim (hback c) (h c)
  have hsame := trim_eq hfront hmore (tight_trim t)
  rwa [← List.append_assoc (trim t), ← List.append_assoc front, ← ht] at hsame

/-! ## Longer texts -/

theorem trimStart_append (h : allBlank t = false) (u : Text) :
    trimStart (t ++ u) = trimStart t ++ u := by
  obtain ⟨c, hc, hblank⟩ := allBlank_eq_false_iff.1 h
  have hne : t.dropWhile isBlank ≠ [] := by
    intro hnil
    have hall := List.dropWhile_eq_nil_iff.1 hnil c hc
    simp [hblank] at hall
  rw [trimStart, List.dropWhile_append, if_neg (by simpa using hne)]
  rfl

theorem trimEnd_append (h : allBlank u = false) (t : Text) : trimEnd (t ++ u) = t ++ trimEnd u := by
  obtain ⟨c, hc, hblank⟩ := allBlank_eq_false_iff.1 h
  have hne : u.reverse.dropWhile isBlank ≠ [] := by
    intro hnil
    have hall := List.dropWhile_eq_nil_iff.1 hnil c (List.mem_reverse.2 hc)
    simp [hblank] at hall
  rw [trimEnd, dropEndWhile, List.reverse_append, List.dropWhile_append,
    if_neg (by simpa using hne), List.reverse_append, List.reverse_reverse]
  rfl

theorem trimEnd_isPrefix_append (t u : Text) : trimEnd t <+: trimEnd (t ++ u) := by
  rw [trimEnd, trimEnd, dropEndWhile, dropEndWhile, List.reverse_append, List.dropWhile_append]
  split_ifs with h
  · exact List.prefix_refl _
  · rw [List.reverse_append, List.reverse_reverse]
    exact (trimEnd_isPrefix t).trans (List.prefix_append t _)

/-- A text that is more than white space stays at the start when something is put behind it. -/
theorem trim_prefix_append (h : allBlank t = false) (u : Text) : trim t <+: trim (t ++ u) := by
  rw [trim, trim, trimStart_append h]
  exact trimEnd_isPrefix_append _ u

theorem trim_ne_nil (h : allBlank t = false) : trim t ≠ [] := by
  obtain ⟨c, hc, hblank⟩ := allBlank_eq_false_iff.1 h
  obtain ⟨front, back, ht, hfront, hback⟩ := exists_trim t
  intro hnil
  rw [hnil, List.nil_append] at ht
  rw [ht] at hc
  rcases List.mem_append.1 hc with hc | hc
  · simp [hfront c hc] at hblank
  · simp [hback c hc] at hblank

/-- The first character that is no white space stays the first one. -/
theorem head?_trim_append (h : allBlank t = false) (u : Text) :
    (trim (t ++ u)).head? = (trim t).head? := by
  obtain ⟨rest, hrest⟩ := trim_prefix_append h u
  rw [← hrest]
  cases htrim : trim t with
  | nil => exact absurd htrim (trim_ne_nil h)
  | cons c front => rfl

/-! ## Changes of single characters -/

/-- **Trimming can be exchanged with a change of single characters** that keeps white space and
makes none. -/
theorem trim_flatMap {f : Char → Text} (hblank : ∀ c, isBlank c = true → f c = [c])
    (hne : ∀ c, f c ≠ []) (hother : ∀ c, ∀ d ∈ f c, isBlank d = isBlank c) (t : Text) :
    trim (t.flatMap f) = (trim t).flatMap f := by
  have hkeep {blanks : Text} (h : ∀ c ∈ blanks, isBlank c = true) : blanks.flatMap f = blanks := by
    rw [List.flatMap_congr fun c hc => hblank c (h c hc), List.flatMap_singleton']
  obtain ⟨front, back, ht, hfront, hback⟩ := exists_trim t
  -- The white space stays, and what is in between stays tight.
  have htight : Tight ((trim t).flatMap f) := by
    constructor
    · intro d hd
      cases htrim : trim t with
      | nil => simp [htrim] at hd
      | cons c rest =>
        rw [htrim, List.flatMap_cons, List.head?_append_of_ne_nil _ (hne c)] at hd
        rw [hother c d (List.mem_of_mem_head? hd)]
        exact (tight_trim t).first c (by rw [htrim]; rfl)
    · intro d hd
      rcases List.eq_nil_or_concat' (trim t) with htrim | ⟨rest, c, htrim⟩
      · simp [htrim] at hd
      · rw [htrim, List.flatMap_append, List.flatMap_singleton,
          List.getLast?_append_of_ne_nil _ (hne c)] at hd
        rw [hother c d (List.mem_of_mem_getLast? hd)]
        exact (tight_trim t).last c (by simp [htrim])
  have hsplit := congrArg (List.flatMap f) ht
  rw [List.flatMap_append, List.flatMap_append, hkeep hfront, hkeep hback] at hsplit
  rw [hsplit, trim_eq hfront hback htight]

end Roster.Text
