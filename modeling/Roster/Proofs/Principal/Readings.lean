import Mathlib.Tactic.SplitIfs
import Roster.Principal
import Roster.Proofs.Text.Lowercase

/-!
# Readings of a text

From each place of a text on, the search for a principal tries several readings: a phrase or none,
white space, and a principal behind them. This module says what one reading gives.

* `fold` makes characters equal that differ in their case only.
* `StandsAt piece r o` says that `piece` stands in `r` behind `o` characters, in any case, and
  `IsLastSuffix r o` that the last `.amazonaws.com` of `r` stands there.
* `IsReading` splits a text into a phrase, white space and the rest.

**Theorem (`principalAt?_of_last`).** A run of principal characters is read up to its last suffix,
if that stands behind its first character.

**Theorem (`exists_reading`, `matchAt?_isSome`).** What is found at the start of a text is found by
a reading, and something is found whenever there is a reading of it.

**Theorem (`match?_leftmost`).** The search takes a reading that starts furthest left.

**Theorem (`exists_ending`).** Every principal that is found ends with `.amazonaws.com`, in any case.
-/

namespace Roster.Principal

/-! ## Case -/

/-- The small letter or the sign that a character is a case of. The long s and the Kelvin sign are
cases of s and k. -/
def fold (c : Char) : Char :=
  if c = 'ſ' then 's' else if c = '\u212A' then 'k' else c.toLower

theorem sameLetter_iff {p c : Char} (hs : p ≠ 'ſ') (hk : p ≠ '\u212A') :
    sameLetter p c = true ↔ fold c = p := by
  have hne : ('ſ' : Char) ≠ '\u212A' := by decide
  simp only [sameLetter, fold, Bool.or_eq_true, Bool.and_eq_true, decide_eq_true_eq]
  by_cases hlong : c = 'ſ'
  · subst hlong
    have hlower : 'ſ'.toLower ≠ p := fun h => hs (h.symm.trans (by decide))
    simp only [hlower, hne, and_true, and_false, false_or, or_false, if_true, eq_comm]
  by_cases hkelvin : c = '\u212A'
  · subst hkelvin
    have hlower : '\u212A'.toLower ≠ p := fun h => hk (h.symm.trans (by decide))
    simp only [hlower, hne.symm, and_true, and_false, false_or, if_false, if_true, eq_comm]
  · simp only [hlong, hkelvin, and_false, or_false, if_false]

theorem isPrincipalChar_iff (c : Char) : isPrincipalChar c = true ↔
    97 ≤ c.toNat ∧ c.toNat ≤ 122 ∨ 65 ≤ c.toNat ∧ c.toNat ≤ 90 ∨ 48 ≤ c.toNat ∧ c.toNat ≤ 57 ∨
      c.toNat = 46 ∨ c.toNat = 45 ∨ c.toNat = 0x17F ∨ c.toNat = 0x212A := by
  simp only [isPrincipalChar, Text.isAsciiLetter, Text.isDigit, Bool.or_eq_true, Bool.and_eq_true,
    decide_eq_true_eq, Text.le_iff_toNat_le, ← Char.toNat_inj (c := c), or_assoc]
  rfl

theorem isPrincipalChar_fold (c : Char) : isPrincipalChar (fold c) = isPrincipalChar c := by
  rw [fold]
  split_ifs with hlong hkelvin
  · rw [hlong]
    decide
  · rw [hkelvin]
    decide
  · rw [Bool.eq_iff_iff, isPrincipalChar_iff, isPrincipalChar_iff, Text.toNat_toLower]
    split_ifs <;> omega

theorem isPrincipalChar_of_blank {c : Char} (h : Text.isBlank c = true) :
    isPrincipalChar c = false := by
  rw [Bool.eq_false_iff, ne_eq, isPrincipalChar_iff]
  rw [Text.isBlank_iff] at h
  omega

theorem fold_of_blank {c : Char} (h : Text.isBlank c = true) : fold c = c := by
  have hlong : c ≠ 'ſ' := by
    rintro rfl
    exact absurd h (by decide)
  have hkelvin : c ≠ '\u212A' := by
    rintro rfl
    exact absurd h (by decide)
  rw [fold, if_neg hlong, if_neg hkelvin, ← Char.toNat_inj, Text.toNat_toLower, if_neg]
  rw [Text.isBlank_iff] at h
  omega

theorem map_fold_of_blanks {blanks : Text} (h : ∀ c ∈ blanks, Text.isBlank c = true) :
    blanks.map fold = blanks :=
  (List.map_congr_left fun c hc => fold_of_blank (h c hc)).trans (List.map_id _)

/-! ## Phrases -/

/-- A phrase is written in small letters and signs. -/
def IsPlain (phrase : Text) : Prop := 'ſ' ∉ phrase ∧ '\u212A' ∉ phrase

theorem isPlain_suffix : IsPlain suffix := by
  rw [IsPlain]
  decide

theorem isPlain_of_mem_phrases : ∀ phrase ∈ phrases, IsPlain phrase := by
  simp only [IsPlain]
  decide

theorem afterPhrase?_eq_some_iff {phrase t rest : Text} (h : IsPlain phrase) :
    afterPhrase? phrase t = some rest ↔ ∃ lead, t = lead ++ rest ∧ lead.map fold = phrase := by
  induction phrase generalizing t with
  | nil => simp [afterPhrase?]
  | cons p phrase ih =>
    have hs : p ≠ 'ſ' := (List.ne_of_not_mem_cons h.1).symm
    have hk : p ≠ '\u212A' := (List.ne_of_not_mem_cons h.2).symm
    have hphrase : IsPlain phrase :=
      ⟨List.not_mem_of_not_mem_cons h.1, List.not_mem_of_not_mem_cons h.2⟩
    cases t with
    | nil => simp [afterPhrase?]
    | cons c t =>
      rw [afterPhrase?]
      by_cases hc : fold c = p
      · rw [if_pos ((sameLetter_iff hs hk).2 hc), ih hphrase]
        constructor
        · rintro ⟨lead, rfl, hlead⟩
          exact ⟨c :: lead, rfl, by rw [List.map_cons, hc, hlead]⟩
        · rintro ⟨lead, hsplit, hlead⟩
          obtain ⟨c', lead', rfl, -, hlead'⟩ := List.map_eq_cons_iff.1 hlead
          obtain ⟨rfl, rfl⟩ := List.cons.inj hsplit
          exact ⟨lead', rfl, hlead'⟩
      · rw [if_neg fun h => hc ((sameLetter_iff hs hk).1 h)]
        refine iff_of_false (fun h => nomatch h) ?_
        rintro ⟨lead, hsplit, hlead⟩
        obtain ⟨c', lead, rfl, hc', -⟩ := List.map_eq_cons_iff.1 hlead
        obtain ⟨rfl, -⟩ := List.cons.inj hsplit
        exact hc hc'

theorem isSome_afterPhrase?_iff {phrase t : Text} (h : IsPlain phrase) :
    (afterPhrase? phrase t).isSome ↔ phrase <+: t.map fold := by
  simp only [Option.isSome_iff_exists, afterPhrase?_eq_some_iff h]
  constructor
  · rintro ⟨rest, lead, rfl, rfl⟩
    rw [List.map_append]
    exact List.prefix_append _ _
  · rintro ⟨rest', hsplit⟩
    obtain ⟨lead, rest, rfl, hlead, -⟩ := List.map_eq_append_iff.1 hsplit.symm
    exact ⟨rest, lead, rfl, hlead⟩

/-! ## Runs and their suffixes -/

/-- Behind `o` characters of the text stands the piece, in any case. -/
def StandsAt (piece t : Text) (o : Nat) : Prop := piece <+: (t.map fold).drop o

/-- The last suffix of the text stands behind `o` characters. -/
def IsLastSuffix (t : Text) (o : Nat) : Prop :=
  StandsAt suffix t o ∧ ∀ o', StandsAt suffix t o' → o' ≤ o

theorem StandsAt.length_le {piece t : Text} {o : Nat} (h : StandsAt piece t o) (hne : piece ≠ []) :
    o + piece.length ≤ t.length := by
  have hpos : 0 < piece.length := List.length_pos_iff.2 hne
  have hle := List.IsPrefix.length_le h
  rw [List.length_drop, List.length_map] at hle
  omega

theorem suffix_ne_nil : suffix ≠ [] := by decide

theorem exists_last {t : Text} {o : Nat} (h : StandsAt suffix t o) :
    ∃ last, o ≤ last ∧ IsLastSuffix t last := by
  induction hn : t.length - o using Nat.strongRecOn generalizing o with
  | ind n ih =>
    by_cases hmore : ∃ o', o < o' ∧ StandsAt suffix t o'
    · obtain ⟨o', hlt, h'⟩ := hmore
      have hle := h'.length_le suffix_ne_nil
      obtain ⟨last, hlast, hstands⟩ := ih (t.length - o') (by omega) h' rfl
      exact ⟨last, by omega, hstands⟩
    · exact ⟨o, Nat.le_refl o, h, fun o' h' => Nat.le_of_not_lt fun hlt => hmore ⟨o', hlt, h'⟩⟩

theorem suffix_chars : ∀ p ∈ suffix, isPrincipalChar p = true :=
  List.all_eq_true.1 (by decide)

theorem isSome_suffix_iff (t : Text) : (afterPhrase? suffix t).isSome ↔ StandsAt suffix t 0 :=
  isSome_afterPhrase?_iff isPlain_suffix

/-- What is read as a principal has a suffix behind its first character. -/
theorem exists_suffix_of_principalAt? {t found : Text} (h : principalAt? t = some found) :
    ∃ o, 1 ≤ o ∧ StandsAt suffix t o := by
  induction t generalizing found with
  | nil => exact nomatch h
  | cons c rest ih =>
    rw [principalAt?] at h
    cases hrest : principalAt? rest with
    | some inner =>
      obtain ⟨o, ho, hstands⟩ := ih hrest
      exact ⟨o + 1, by omega, hstands⟩
    | none =>
      simp only [hrest] at h
      split_ifs at h with hc hsuffix
      exact ⟨1, Nat.le_refl 1, (isSome_suffix_iff rest).1 hsuffix⟩

theorem exists_ending_of_principalAt? {t found : Text} (h : principalAt? t = some found) :
    ∃ ending, ending <:+ found ∧ ending.map fold = suffix := by
  induction t generalizing found with
  | nil => exact nomatch h
  | cons c rest ih =>
    rw [principalAt?] at h
    cases hrest : principalAt? rest with
    | some inner =>
      simp only [hrest] at h
      split_ifs at h with hc
      obtain rfl := Option.some.inj h
      obtain ⟨ending, hending, hfold⟩ := ih hrest
      exact ⟨ending, hending.trans (List.suffix_cons c inner), hfold⟩
    | none =>
      simp only [hrest] at h
      split_ifs at h with hc hsuffix
      obtain rfl := Option.some.inj h
      refine ⟨rest.take suffix.length, List.suffix_cons c _, ?_⟩
      have hstart : suffix <+: rest.map fold := (isSome_suffix_iff rest).1 hsuffix
      rw [List.map_take]
      exact (List.prefix_iff_eq_take.1 hstart).symm

/-- **A run is read up to its last suffix,** if that stands behind its first character. -/
theorem principalAt?_of_last {r : Text} {o : Nat} (hr : ∀ c ∈ r, isPrincipalChar c = true)
    (ho : 1 ≤ o) (h : IsLastSuffix r o) : principalAt? r = some (r.take (o + suffix.length)) := by
  induction r generalizing o with
  | nil =>
    have hle := h.1.length_le suffix_ne_nil
    rw [List.length_nil] at hle
    omega
  | cons c rest ih =>
    obtain ⟨hc, hrest⟩ := List.forall_mem_cons.1 hr
    obtain ⟨o, rfl⟩ : ∃ o', o = o' + 1 := ⟨o - 1, by omega⟩
    have hlast : IsLastSuffix rest o :=
      ⟨h.1, fun o' h' => Nat.le_of_succ_le_succ (h.2 (o' + 1) h')⟩
    rw [principalAt?, if_pos hc]
    cases o with
    | succ o =>
      rw [ih hrest (by omega) hlast, Nat.add_right_comm (o + 1), List.take_succ_cons]
    | zero =>
      -- The suffix right behind the first character counts only if no later one was read.
      have hnone : principalAt? rest = none := by
        rw [Option.eq_none_iff_forall_not_mem]
        intro found hfound
        obtain ⟨o', ho', hstands⟩ := exists_suffix_of_principalAt? hfound
        exact absurd (hlast.2 o' hstands) (by omega)
      simp only [hnone, if_pos ((isSome_suffix_iff rest).2 hlast.1)]
      rfl

/-- What stands behind a run of principal characters does not take part in a piece of them. -/
theorem prefix_map_fold_append_iff {piece r after : Text}
    (hpiece : ∀ p ∈ piece, isPrincipalChar p = true)
    (hafter : ∀ c ∈ after.head?, isPrincipalChar c = false) :
    piece <+: (r ++ after).map fold ↔ piece <+: r.map fold := by
  rw [List.map_append]
  refine ⟨fun h => ?_, fun h => h.trans (List.prefix_append _ _)⟩
  rcases List.prefix_or_prefix_of_prefix h (List.prefix_append _ _) with h' | ⟨beyond, rfl⟩
  · exact h'
  cases beyond with
  | nil => exact ⟨[], by simp⟩
  | cons p beyond =>
    have hbeyond := (List.prefix_append_right_inj _).1 h
    cases after with
    | nil => exact absurd hbeyond (by simp)
    | cons c after =>
      obtain ⟨rfl, -⟩ := List.cons_prefix_cons.1 hbeyond
      have hp := hpiece (fold c) (List.mem_append_right _ List.mem_cons_self)
      rw [isPrincipalChar_fold, hafter c rfl] at hp
      exact nomatch hp

theorem principalAt?_of_head {t : Text} (h : ∀ c ∈ t.head?, isPrincipalChar c = false) :
    principalAt? t = none := by
  cases t with
  | nil => rfl
  | cons c rest => rw [principalAt?, h c rfl, if_neg Bool.false_ne_true]

/-- Only the run of principal characters at the start of a text counts. -/
theorem principalAt?_append {r after : Text} (hr : ∀ c ∈ r, isPrincipalChar c = true)
    (hafter : ∀ c ∈ after.head?, isPrincipalChar c = false) :
    principalAt? (r ++ after) = principalAt? r := by
  induction r with
  | nil => exact principalAt?_of_head hafter
  | cons c r ih =>
    obtain ⟨hc, hrest⟩ := List.forall_mem_cons.1 hr
    have hsame : (afterPhrase? suffix (r ++ after)).isSome = (afterPhrase? suffix r).isSome := by
      rw [Bool.eq_iff_iff, isSome_afterPhrase?_iff isPlain_suffix,
        isSome_afterPhrase?_iff isPlain_suffix]
      exact prefix_map_fold_append_iff suffix_chars hafter
    rw [List.cons_append, principalAt?, principalAt?, if_pos hc, if_pos hc, ih hrest, hsame]
    cases principalAt? r with
    | some found => rfl
    | none =>
      by_cases hsuffix : (afterPhrase? suffix r).isSome = true
      · have hle := ((isSome_suffix_iff r).1 hsuffix).length_le suffix_ne_nil
        rw [List.take_append_of_le_length (by omega)]
      · simp only [if_neg hsuffix]

theorem head_of_principalAt? {t : Text} (h : (principalAt? t).isSome) :
    ∃ c rest, t = c :: rest ∧ isPrincipalChar c = true := by
  cases t with
  | nil => exact nomatch h
  | cons c rest =>
    cases hc : isPrincipalChar c with
    | true => exact ⟨c, rest, rfl, hc⟩
    | false =>
      rw [principalAt?, hc, if_neg Bool.false_ne_true] at h
      exact nomatch h

/-! ## Readings -/

/-- A reading of a text: a phrase in any case or none, white space, and the rest. -/
structure IsReading (t lead blanks rest : Text) : Prop where
  text : t = lead ++ (blanks ++ rest)
  lead : lead.map fold ∈ [] :: phrases
  blanks : ∀ c ∈ blanks, Text.isBlank c = true

/-- White space in front of a principal is always skipped as a whole. -/
theorem principalPastBlanks?_eq (t : Text) :
    principalPastBlanks? t = principalAt? (Text.trimStart t) := by
  induction t with
  | nil => rfl
  | cons c rest ih =>
    rw [principalPastBlanks?, Text.trimStart, List.dropWhile_cons]
    by_cases hc : Text.isBlank c = true
    · have hnone : principalAt? (c :: rest) = none :=
        principalAt?_of_head fun c' hc' => Option.some.inj hc' ▸ isPrincipalChar_of_blank hc
      rw [if_pos hc, if_pos hc, hnone, Option.or_none, ih, Text.trimStart]
    · rw [if_neg hc, if_neg hc]

theorem trimStart_of_principal {blanks rest : Text} (hblanks : ∀ c ∈ blanks, Text.isBlank c = true)
    (h : (principalAt? rest).isSome) : Text.trimStart (blanks ++ rest) = rest := by
  obtain ⟨c, rest, rfl, hc⟩ := head_of_principalAt? h
  have hblank : Text.isBlank c = false := by
    by_contra h
    rw [isPrincipalChar_of_blank (Bool.of_not_eq_false h)] at hc
    exact nomatch hc
  rw [Text.trimStart_blanks_append hblanks, Text.trimStart_cons hblank]

/-- What is found at the start of a text is found by a reading of it. -/
theorem exists_reading {t found : Text} (h : matchAt? t = some found) :
    ∃ lead blanks rest, IsReading t lead blanks rest ∧ principalAt? rest = some found := by
  rcases Option.or_eq_some_iff.1 h with h | ⟨-, h⟩
  · obtain ⟨phrase, hphrase, hread⟩ := List.exists_of_findSome?_eq_some h
    obtain ⟨rest, hrest, hfound⟩ := Option.bind_eq_some_iff.1 hread
    obtain ⟨lead, rfl, rfl⟩ :=
      (afterPhrase?_eq_some_iff (isPlain_of_mem_phrases phrase hphrase)).1 hrest
    rw [principalPastBlanks?_eq] at hfound
    obtain ⟨blanks, hblanks, hall⟩ := Text.exists_trimStart rest
    refine ⟨lead, blanks, _, ⟨?_, List.mem_cons_of_mem _ hphrase, hall⟩, hfound⟩
    rw [← hblanks]
  · rw [principalPastBlanks?_eq] at h
    obtain ⟨blanks, hblanks, hall⟩ := Text.exists_trimStart t
    exact ⟨[], blanks, _, ⟨hblanks, List.mem_cons_self, hall⟩, h⟩

/-- Something is found at the start of a text of which there is a reading. -/
theorem matchAt?_isSome {t lead blanks rest : Text} (h : IsReading t lead blanks rest)
    (hrest : (principalAt? rest).isSome) : (matchAt? t).isSome := by
  have hfound : (principalPastBlanks? (blanks ++ rest)).isSome := by
    rwa [principalPastBlanks?_eq, trimStart_of_principal h.blanks hrest]
  rw [matchAt?, Option.isSome_or, Bool.or_eq_true]
  rcases List.mem_cons.1 h.lead with hlead | hlead
  · right
    obtain rfl := List.map_eq_nil_iff.1 hlead
    rwa [h.text, List.nil_append]
  · left
    refine List.findSome?_isSome_iff.2 ⟨lead.map fold, hlead, ?_⟩
    have hafter := (afterPhrase?_eq_some_iff (isPlain_of_mem_phrases _ hlead)).2
      ⟨lead, h.text, rfl⟩
    rwa [hafter, Option.bind_some]

/-! ## The leftmost reading -/

/-- **The search takes a reading that starts furthest left.** -/
theorem match?_leftmost {t skipped rest : Text} (ht : t = skipped ++ rest)
    (h : (matchAt? rest).isSome) :
    ∃ start u found, t = start ++ u ∧ match? t = some found ∧ matchAt? u = some found ∧
      ∀ start' u', t = start' ++ u' → (matchAt? u').isSome → start.length ≤ start'.length := by
  induction t generalizing skipped with
  | nil =>
    obtain ⟨rfl, rfl⟩ := List.append_eq_nil_iff.1 ht.symm
    exact nomatch h
  | cons c t ih =>
    cases hfound : matchAt? (c :: t) with
    | some found =>
      refine ⟨[], c :: t, found, rfl, ?_, hfound, fun _ _ _ _ => Nat.zero_le _⟩
      rw [match?, hfound, Option.some_or]
    | none =>
      -- The place of every reading is behind the first character.
      have hbehind : ∀ start' u', c :: t = start' ++ u' → (matchAt? u').isSome →
          ∃ start'', start' = c :: start'' ∧ t = start'' ++ u' := by
        intro start' u' hsplit hsome
        cases start' with
        | nil =>
          rw [List.nil_append] at hsplit
          rw [← hsplit, hfound] at hsome
          exact nomatch hsome
        | cons c' start'' =>
          obtain ⟨rfl, hrest⟩ := List.cons.inj hsplit
          exact ⟨start'', rfl, hrest⟩
      obtain ⟨skipped', -, hrest⟩ := hbehind skipped rest ht h
      obtain ⟨start, u, found, hsplit, hmatch, hat, hleft⟩ := ih hrest
      refine ⟨c :: start, u, found, by rw [hsplit, List.cons_append], ?_, hat, ?_⟩
      · rw [match?, hfound, Option.none_or, hmatch]
      · intro start' u' hsplit' hsome
        obtain ⟨start'', rfl, hrest'⟩ := hbehind start' u' hsplit' hsome
        exact Nat.succ_le_succ (hleft start'' u' hrest' hsome)

theorem exists_matchAt? {t found : Text} (h : match? t = some found) :
    ∃ skipped rest, t = skipped ++ rest ∧ (matchAt? rest).isSome := by
  induction t with
  | nil => exact nomatch h
  | cons c t ih =>
    rcases Option.or_eq_some_iff.1 h with h | ⟨-, h⟩
    · exact ⟨[], c :: t, rfl, Option.isSome_of_mem h⟩
    · obtain ⟨skipped, rest, rfl, hsome⟩ := ih h
      exact ⟨c :: skipped, rest, rfl, hsome⟩

/-- **Every principal that is found ends with a suffix,** in any case. -/
theorem exists_ending {t found : Text} (h : match? t = some found) :
    ∃ ending, ending <:+ found ∧ ending.map fold = suffix := by
  obtain ⟨skipped, rest, hsplit, hsome⟩ := exists_matchAt? h
  obtain ⟨-, u, found', -, hmatch, hat, -⟩ := match?_leftmost hsplit hsome
  obtain rfl : found = found' := Option.some.inj (h.symm.trans hmatch)
  obtain ⟨lead, blanks, behind, -, hfound⟩ := exists_reading hat
  exact exists_ending_of_principalAt? hfound

end Roster.Principal
