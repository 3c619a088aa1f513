import Mathlib.Data.List.Basic
import Roster.Proofs.Principal.Readings

/-!
# Runs of principal characters

A text falls into runs of principal characters and what stands between them.

* `IsRun before run after` says that `run` is a longest stretch of principal characters.
* `Qualifies run` says that a suffix stands in the run behind its first character, and `HasRun t`
  that some run of the text qualifies. `IsFirstRun` points out the first one that does.

**Theorem (`exists_run_of_principalAt?`).** Wherever a principal can be read, a run that qualifies
starts there or further left.

**Theorem (`IsFirstRun.not_hasRun`, `IsFirstRun.of_not_hasRun`).** A run that qualifies is the first
one exactly if the text in front of it has none. What stands behind it does not matter.
-/

namespace Roster.Principal

/-! ## Runs -/

/-- A longest stretch of principal characters, with what stands before and behind it. -/
structure IsRun (before run after : Text) : Prop where
  chars : ∀ c ∈ run, isPrincipalChar c = true
  starts : ∀ c ∈ before.getLast?, isPrincipalChar c = false
  ends : ∀ c ∈ after.head?, isPrincipalChar c = false

/-- A suffix stands in the run behind its first character or further right. -/
def Qualifies (run : Text) : Prop := ∃ o, 1 ≤ o ∧ StandsAt suffix run o

/-- Some run of the text qualifies. -/
def HasRun (t : Text) : Prop :=
  ∃ before run after, t = before ++ (run ++ after) ∧ IsRun before run after ∧ Qualifies run

/-- The run is the first one of the text that qualifies. -/
structure IsFirstRun (t before run after : Text) : Prop where
  text : t = before ++ (run ++ after)
  isRun : IsRun before run after
  qualifies : Qualifies run
  first : ∀ before' run' after', t = before' ++ (run' ++ after') → IsRun before' run' after' →
    Qualifies run' → before.length ≤ before'.length

theorem StandsAt.append_left {piece run : Text} {o : Nat} (h : StandsAt piece run o)
    (lead : Text) : StandsAt piece (lead ++ run) (lead.length + o) := by
  rw [StandsAt, List.map_append, ← List.length_map (f := fold), List.drop_length_add_append]
  exact h

theorem StandsAt.of_append_left {piece run lead : Text} {o : Nat}
    (h : StandsAt piece (lead ++ run) (lead.length + o)) : StandsAt piece run o := by
  rwa [StandsAt, List.map_append, ← List.length_map (f := fold), List.drop_length_add_append] at h

theorem IsLastSuffix.of_append_left {run lead : Text} {o : Nat}
    (h : IsLastSuffix (lead ++ run) (lead.length + o)) : IsLastSuffix run o :=
  ⟨h.1.of_append_left, fun _ h' => Nat.le_of_add_le_add_left (h.2 _ (h'.append_left lead))⟩

theorem Qualifies.append_left {run : Text} (h : Qualifies run) (lead : Text) :
    Qualifies (lead ++ run) := by
  obtain ⟨o, ho, hstands⟩ := h
  exact ⟨lead.length + o, by omega, hstands.append_left lead⟩

theorem Qualifies.dot_mem {run : Text} (h : Qualifies run) : '.' ∈ run.map fold := by
  obtain ⟨o, -, hstands⟩ := h
  have hdot : '.' ∈ suffix := by decide
  exact List.mem_of_mem_drop (hstands.subset hdot)

theorem Qualifies.ne_nil {run : Text} (h : Qualifies run) : run ≠ [] := by
  rintro rfl
  exact nomatch h.dot_mem

theorem Qualifies.exists_last {run : Text} (h : Qualifies run) :
    ∃ o, 1 ≤ o ∧ IsLastSuffix run o := by
  obtain ⟨o, ho, hstands⟩ := h
  obtain ⟨last, hle, hlast⟩ := Principal.exists_last hstands
  exact ⟨last, Nat.le_trans ho hle, hlast⟩

theorem qualifies_of_principalAt? {run : Text} (h : (principalAt? run).isSome) :
    Qualifies run := by
  obtain ⟨found, hfound⟩ := Option.isSome_iff_exists.1 h
  exact exists_suffix_of_principalAt? hfound

theorem exists_split (t : Text) : ∃ run after, t = run ++ after ∧
    (∀ c ∈ run, isPrincipalChar c = true) ∧ ∀ c ∈ after.head?, isPrincipalChar c = false := by
  induction t with
  | nil => exact ⟨[], [], rfl, by simp, by simp⟩
  | cons c t ih =>
    cases hc : isPrincipalChar c with
    | false => exact ⟨[], c :: t, rfl, by simp, fun c' hc' => Option.some.inj hc' ▸ hc⟩
    | true =>
      obtain ⟨run, after, rfl, hrun, hafter⟩ := ih
      exact ⟨c :: run, after, rfl, List.forall_mem_cons.2 ⟨hc, hrun⟩, hafter⟩

/-- A principal that is read from a place on is part of a run that qualifies and does not start
further right. -/
theorem exists_run_of_principalAt? {s u : Text} (h : (principalAt? u).isSome) :
    ∃ before run after, s ++ u = before ++ (run ++ after) ∧ IsRun before run after ∧
      Qualifies run ∧ before.length ≤ s.length := by
  obtain ⟨run, after, rfl, hrun, hafter⟩ := exists_split u
  obtain ⟨lead, before, hsplit, hlead, hbefore⟩ := exists_split s.reverse
  obtain rfl : s = before.reverse ++ lead.reverse := by
    rw [← List.reverse_append, ← hsplit, List.reverse_reverse]
  rw [principalAt?_append hrun hafter] at h
  refine ⟨before.reverse, lead.reverse ++ run, after, by simp only [List.append_assoc],
    ⟨?_, ?_, hafter⟩, (qualifies_of_principalAt? h).append_left _, by simp⟩
  · intro c hc
    rcases List.mem_append.1 hc with hc | hc
    · exact hlead c (List.mem_reverse.1 hc)
    · exact hrun c hc
  · rwa [List.getLast?_reverse]

/-! ## The first run that qualifies -/

/-- Of two splits of a text the longer one goes on where the shorter one ends. -/
theorem exists_between {α : Type} {s u b v : List α} (h : s ++ u = b ++ v)
    (hle : s.length ≤ b.length) : ∃ x, b = s ++ x ∧ u = x ++ v := by
  have hs : s <+: b ++ v := h ▸ List.prefix_append s u
  obtain ⟨x, rfl⟩ := List.prefix_of_prefix_length_le hs (List.prefix_append b v) hle
  rw [List.append_assoc] at h
  exact ⟨x, rfl, List.append_cancel_left h⟩

/-- No principal characters stand in front of a boundary. -/
theorem eq_nil_of_boundary {before l : Text} (hl : ∀ c ∈ l, isPrincipalChar c = true)
    (hlast : ∀ c ∈ (before ++ l).getLast?, isPrincipalChar c = false) : l = [] := by
  refine Decidable.byContradiction fun hne => ?_
  have hnot := hlast (l.getLast hne)
    (List.mem_getLast?_append_of_mem_getLast? (List.getLast_mem_getLast? hne))
  rw [hl _ (List.getLast_mem hne)] at hnot
  exact nomatch hnot

/-- A run that starts in front of a boundary ends in front of it. -/
theorem IsRun.of_append {front back before run after : Text} (h : IsRun before run after)
    (hsplit : before ++ (run ++ after) = front ++ back)
    (hfront : ∀ c ∈ front.getLast?, isPrincipalChar c = false)
    (hlt : before.length < front.length) :
    ∃ after', front = before ++ (run ++ after') ∧ IsRun before run after' := by
  obtain ⟨x, rfl, hx⟩ := exists_between hsplit (Nat.le_of_lt hlt)
  rcases List.append_eq_append_iff.1 hx with ⟨after', rfl, rfl⟩ | ⟨beyond, rfl, -⟩
  · exact ⟨after', rfl, h.chars, h.starts,
      fun c hc => h.ends c (List.mem_head?_append_of_mem_head? hc)⟩
  · obtain rfl : x = [] :=
      eq_nil_of_boundary (fun c hc => h.chars c (List.mem_append_left beyond hc)) hfront
    simp at hlt

theorem IsRun.append {before run after : Text} (h : IsRun before run after) (hne : run ≠ [])
    (hlast : ∀ c ∈ (before ++ (run ++ after)).getLast?, isPrincipalChar c = false) (back : Text) :
    IsRun before run (after ++ back) := by
  refine ⟨h.chars, h.starts, ?_⟩
  cases after with
  | cons c after => exact h.ends
  | nil =>
    rw [List.append_nil] at hlast
    exact absurd (eq_nil_of_boundary h.chars hlast) hne

theorem IsFirstRun.not_hasRun {t before run after : Text} (h : IsFirstRun t before run after) :
    ¬ HasRun before := by
  rintro ⟨before', run', after', rfl, hrun', hqualifies'⟩
  have hle := h.first before' run' (after' ++ (run ++ after)) (by simp [h.text])
    (hrun'.append hqualifies'.ne_nil h.isRun.starts _) hqualifies'
  have hpos := List.length_pos_iff.2 hqualifies'.ne_nil
  simp only [List.length_append] at hle
  omega

theorem IsFirstRun.of_not_hasRun {before run after : Text} (hrun : IsRun before run after)
    (hqualifies : Qualifies run) (hnone : ¬ HasRun before) :
    IsFirstRun (before ++ (run ++ after)) before run after := by
  refine ⟨rfl, hrun, hqualifies, fun before' run' after' hsplit hrun' hqualifies' => ?_⟩
  refine Nat.le_of_not_lt fun hlt => hnone ?_
  obtain ⟨rest, hrest, hinside⟩ := hrun'.of_append hsplit.symm hrun.starts hlt
  exact ⟨before', run', rest, hrest, hinside, hqualifies'⟩

theorem HasRun.exists_first {t : Text} (h : HasRun t) :
    ∃ before run after, IsFirstRun t before run after := by
  obtain ⟨before, run, after, ht, hrun, hqualifies⟩ := h
  induction hn : before.length using Nat.strongRecOn generalizing before run after with
  | ind n ih =>
    by_cases hearlier : ∃ before' run' after', t = before' ++ (run' ++ after') ∧
        IsRun before' run' after' ∧ Qualifies run' ∧ before'.length < before.length
    · obtain ⟨before', run', after', ht', hrun', hqualifies', hlt⟩ := hearlier
      exact ih before'.length (hn ▸ hlt) before' run' after' ht' hrun' hqualifies' rfl
    · refine ⟨before, run, after, ht, hrun, hqualifies,
        fun before' run' after' ht' hrun' hqualifies' => Nat.le_of_not_lt fun hlt => ?_⟩
      exact hearlier ⟨before', run', after', ht', hrun', hqualifies', hlt⟩

/-! ## Texts in front and behind -/

theorem IsRun.append_left {before run after lead : Text} (h : IsRun before run after)
    (hlead : ∀ c ∈ lead.getLast?, isPrincipalChar c = false) :
    IsRun (lead ++ before) run after := by
  refine ⟨h.chars, fun c hc => ?_, h.ends⟩
  rw [List.getLast?_append] at hc
  rcases Option.or_eq_some_iff.1 hc with hc | ⟨-, hc⟩
  · exact h.starts c hc
  · exact hlead c hc

theorem IsRun.of_append_left {before run after lead : Text} (h : IsRun (lead ++ before) run after) :
    IsRun before run after :=
  ⟨h.chars, fun c hc => h.starts c (List.mem_getLast?_append_of_mem_getLast? hc), h.ends⟩

/-- Behind a boundary the runs are those of the text that starts there. -/
theorem hasRun_append_iff {lead t : Text}
    (hlead : ∀ c ∈ lead.getLast?, isPrincipalChar c = false) :
    HasRun (lead ++ t) ↔ HasRun lead ∨ HasRun t := by
  constructor
  · rintro ⟨before, run, after, hsplit, hrun, hqualifies⟩
    rcases Nat.lt_or_ge before.length lead.length with hlt | hge
    · obtain ⟨after', hlead', hrun'⟩ := hrun.of_append hsplit.symm hlead hlt
      exact .inl ⟨before, run, after', hlead', hrun', hqualifies⟩
    · obtain ⟨before', rfl, ht⟩ := exists_between hsplit hge
      exact .inr ⟨before', run, after, ht, hrun.of_append_left, hqualifies⟩
  · rintro (⟨before, run, after, rfl, hrun, hqualifies⟩ |
      ⟨before, run, after, rfl, hrun, hqualifies⟩)
    · exact ⟨before, run, after ++ t, by simp only [List.append_assoc],
        hrun.append hqualifies.ne_nil hlead t, hqualifies⟩
    · exact ⟨lead ++ before, run, after, by rw [List.append_assoc], hrun.append_left hlead,
        hqualifies⟩

/-- The first run that qualifies stays the first one behind a text without any. -/
theorem IsFirstRun.append_left {t before run after lead : Text} (h : IsFirstRun t before run after)
    (hlead : ∀ c ∈ lead.getLast?, isPrincipalChar c = false) (hnone : ¬ HasRun lead) :
    IsFirstRun (lead ++ t) (lead ++ before) run after := by
  have hbefore : ¬ HasRun (lead ++ before) := fun hrun =>
    ((hasRun_append_iff hlead).1 hrun).elim hnone h.not_hasRun
  have hfirst := IsFirstRun.of_not_hasRun (h.isRun.append_left hlead) h.qualifies hbefore
  rwa [List.append_assoc, ← h.text] at hfirst

/-- Characters of no principal bring no run behind a text. -/
theorem HasRun.of_append {t back : Text} (h : HasRun (t ++ back))
    (hback : ∀ c ∈ back, isPrincipalChar c = false) : HasRun t := by
  obtain ⟨before, run, after, hsplit, hrun, hqualifies⟩ := h
  rw [← List.append_assoc] at hsplit
  rcases List.append_eq_append_iff.1 hsplit with ⟨beyond, hbeyond, rfl⟩ | ⟨rest, rfl, rfl⟩
  · -- The run would end with characters of no principal.
    have hnil : beyond = [] := Decidable.byContradiction fun hne => by
      have hlast : ∀ c ∈ (before ++ run).getLast?, isPrincipalChar c = false := by
        intro c hc
        rw [hbeyond, List.getLast?_append_of_ne_nil _ hne] at hc
        exact hback c (List.mem_append_left _ (List.mem_of_getLast? hc))
      exact hqualifies.ne_nil (eq_nil_of_boundary hrun.chars hlast)
    refine ⟨before, run, [], ?_, ⟨hrun.chars, hrun.starts, fun c hc => nomatch hc⟩, hqualifies⟩
    rw [List.append_nil, hbeyond, hnil, List.append_nil]
  · exact ⟨before, run, rest, by rw [List.append_assoc],
      ⟨hrun.chars, hrun.starts,
        fun c hc => hrun.ends c (List.mem_head?_append_of_mem_head? hc)⟩, hqualifies⟩

end Roster.Principal
