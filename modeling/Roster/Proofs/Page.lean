import Mathlib.Tactic.SplitIfs
import Roster.Proofs.Text.Trimming
import Roster.Service

/-!
# Principals stand in the pages that mention them

A principal is never made up: each step of the search for it, over the paragraphs, over the places
in a text, over the phrases and over the white space, cuts a piece out of what it searches.

**Theorem (`Principal.match?_inside`).** A principal that is found in a text stands in the text.

**Theorem (`Page.principal?_in_paragraph`).** A principal that a page mentions stands in the text of
one of its paragraphs.
-/

namespace Roster

namespace Principal

/-! ## Principals in texts -/

theorem afterPhrase?_suffix {phrase t rest : Text} (h : afterPhrase? phrase t = some rest) :
    rest <:+ t := by
  induction phrase generalizing t with
  | nil =>
    obtain rfl := Option.some.inj h
    exact List.suffix_rfl
  | cons p phrase ih =>
    cases t with
    | nil => exact nomatch h
    | cons c t =>
      rw [afterPhrase?] at h
      split_ifs at h with hc
      exact (ih h).trans (List.suffix_cons c t)

theorem principalAt?_start {t found : Text} (h : principalAt? t = some found) : found <+: t := by
  induction t generalizing found with
  | nil => exact nomatch h
  | cons c rest ih =>
    rw [principalAt?] at h
    by_cases hc : isPrincipalChar c = true
    · rw [if_pos hc] at h
      cases hrest : principalAt? rest with
      | some inner =>
        simp only [hrest] at h
        obtain rfl := Option.some.inj h
        exact (List.prefix_cons_inj c).2 (ih hrest)
      | none =>
        simp only [hrest] at h
        split_ifs at h with hsuffix
        obtain rfl := Option.some.inj h
        exact (List.prefix_cons_inj c).2 ⟨_, List.take_append_drop _ _⟩
    · rw [if_neg hc] at h
      exact nomatch h

theorem principalPastBlanks?_inside {t found : Text} (h : principalPastBlanks? t = some found) :
    found <:+: t := by
  induction t with
  | nil => exact nomatch h
  | cons c rest ih =>
    rw [principalPastBlanks?] at h
    split_ifs at h with hblank
    · rcases Option.or_eq_some_iff.1 h with h | ⟨-, h⟩
      · exact (ih h).trans (List.suffix_cons c rest).isInfix
      · exact (principalAt?_start h).isInfix
    · exact (principalAt?_start h).isInfix

theorem matchAt?_inside {t found : Text} (h : matchAt? t = some found) : found <:+: t := by
  rcases Option.or_eq_some_iff.1 h with h | ⟨-, h⟩
  · obtain ⟨phrase, -, hphrase⟩ := List.exists_of_findSome?_eq_some h
    obtain ⟨rest, hrest, hfound⟩ := Option.bind_eq_some_iff.1 hphrase
    exact (principalPastBlanks?_inside hfound).trans (afterPhrase?_suffix hrest).isInfix
  · exact principalPastBlanks?_inside h

/-- **A principal that is found in a text stands in the text.** -/
theorem match?_inside {t found : Text} (h : match? t = some found) : found <:+: t := by
  induction t with
  | nil => exact nomatch h
  | cons c rest ih =>
    rcases Option.or_eq_some_iff.1 h with h | ⟨-, h⟩
    · exact matchAt?_inside h
    · exact (ih h).trans (List.suffix_cons c rest).isInfix

end Principal

namespace Page

/-! ## Principals in pages -/

theorem ofParagraph?_inside {t found : Text} (h : ofParagraph? t = some found) : found <:+: t := by
  rw [ofParagraph?] at h
  split_ifs at h with hhint
  exact (Principal.match?_inside h).trans (Text.trim_inside t)

/-- **A principal that a page mentions stands in one of its paragraphs.** -/
theorem principal?_in_paragraph {html found : Text} (h : principal? html = some found) :
    ∃ p ∈ (Html.parse html).elements "p", found <:+: p.plain := by
  obtain ⟨p, hp, hfound⟩ := List.exists_of_findSome?_eq_some h
  exact ⟨p, hp, ofParagraph?_inside hfound⟩

end Page

end Roster
