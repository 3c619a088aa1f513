import Roster.Proofs.Principal.Runs

/-!
# Principals are read from runs

The search for a principal tries phrases, white space and places one after the other. What it finds
can be told without them, by the runs of the text.

* `Swallows` says that a phrase takes the start of a run: the run begins with the article that ends
  a phrase, and the beginning of the phrase stands in front of it.
* `readFrom` is what is read from a run: all up to its last suffix, without an article that a phrase
  swallows.

**Theorem (`principal_of_first_run`).** A text mentions a principal exactly if one of its runs
qualifies, and the principal is read from the first of them. White space around the text, the
beginning of an ARN in front of it and whatever stands behind the run change nothing.

A reading that starts left of the first run that qualifies ends in front of it or swallows the
article (`reading_cases`): no run further left can be read, and no phrase holds a dot. The search
takes the reading that starts furthest left, so it swallows the article whenever it can.
-/

namespace Roster.Principal

/-! ## The article -/

/-- The beginnings of phrases that end with an article. -/
def verbs : List Text := ["trusts ".toList, "allows ".toList, "assumes ".toList]

/-- The end of those phrases. -/
def article : Text := "the".toList

/-- The beginning of the phrase that is an ARN. -/
def arn : Text := "arn:aws:iam::*:role/aws-service-role/".toList

/-- A phrase swallows the article at the start of a run whose last suffix stands behind `o`
characters. -/
def Swallows (before run : Text) (o : Nat) : Prop :=
  article <+: run.map fold ∧ (∃ verb ∈ verbs, verb <:+ before.map fold) ∧ 4 ≤ o

instance (before run : Text) (o : Nat) : Decidable (Swallows before run o) :=
  inferInstanceAs (Decidable (_ ∧ _ ∧ _))

/-- What is read from a run whose last suffix stands behind `o` characters. -/
def readFrom (before run : Text) (o : Nat) : Text :=
  (run.take (o + suffix.length)).drop (if Swallows before run o then 3 else 0)

theorem append_article_mem : ∀ verb ∈ verbs, verb ++ article ∈ phrases := by decide

theorem arn_mem : arn ∈ phrases := by decide

theorem dot_not_mem : ∀ phrase ∈ phrases, '.' ∉ phrase := by decide

/-- Only an article is a whole run at the end of a phrase. -/
theorem phrase_split {x l : Text} (h : x ++ l ∈ phrases) (hne : l ≠ [])
    (hl : ∀ p ∈ l, isPrincipalChar p = true) (hx : ∀ p ∈ x.getLast?, isPrincipalChar p = false) :
    x ∈ verbs ∧ l = article := by
  have hsplits : ∀ phrase ∈ phrases, ∀ n < phrase.length,
      (phrase.drop n).all isPrincipalChar = true →
      (phrase.take n).getLast?.all (fun p => !isPrincipalChar p) = true →
      phrase.take n ∈ verbs ∧ phrase.drop n = article := by decide
  have hlast : x.getLast?.all (fun p => !isPrincipalChar p) = true := by
    cases hp : x.getLast? with
    | none => rfl
    | some p => simp [hx p hp]
  have hlt : x.length < (x ++ l).length := by
    have hpos := List.length_pos_iff.2 hne
    rw [List.length_append]
    omega
  have hsplit := hsplits _ h x.length hlt
  rw [List.take_left, List.drop_left] at hsplit
  exact hsplit (List.all_eq_true.2 hl) hlast

/-- The beginning of a phrase does not stand at the end of a phrase, nor with white space behind
that. -/
theorem not_verb_suffix {phrase blanks verb : Text} (hphrase : phrase ∈ [] :: phrases)
    (hblanks : ∀ c ∈ blanks, Text.isBlank c = true) (hverb : verb ∈ verbs) :
    ¬ verb <:+ phrase ++ blanks := by
  have hend : ∀ verb ∈ verbs, [' ', 's'] <+: verb.reverse := by decide
  have hphrases : ∀ phrase ∈ [] :: phrases,
      ¬ [' ', 's'] <+: phrase.reverse ∧ ¬ ['s'] <+: phrase.reverse := by decide
  intro h
  have hreverse : [' ', 's'] <+: blanks.reverse ++ phrase.reverse := by
    rw [← List.reverse_append]
    exact (hend verb hverb).trans (List.reverse_prefix.2 h)
  have hblank : ∀ c ∈ blanks.reverse, Text.isBlank c = true :=
    fun c hc => hblanks c (List.mem_reverse.1 hc)
  cases hb : blanks.reverse with
  | nil =>
    rw [hb] at hreverse
    exact (hphrases phrase hphrase).1 hreverse
  | cons c rest =>
    rw [hb, List.cons_append] at hreverse
    have hrest := (List.cons_prefix_cons.1 hreverse).2
    cases rest with
    | nil => exact (hphrases phrase hphrase).2 hrest
    | cons c' rest =>
      obtain ⟨rfl, -⟩ := List.cons_prefix_cons.1 hrest
      have hs := hblank 's' (by simp [hb])
      exact absurd hs (by decide)

/-! ## Readings of the first run -/

section FirstRun

variable {t before run after : Text}

theorem IsRun.nil_of_blanks (h : IsRun before run after) {blanks front x y : Text}
    (hblanks : ∀ c ∈ blanks, Text.isBlank c = true) (hfront : front <:+: run)
    (heq : blanks ++ x = front ++ y) : blanks = [] ∨ front = [] := by
  cases blanks with
  | nil => exact .inl rfl
  | cons c blanks =>
    cases front with
    | nil => exact .inr rfl
    | cons c' front =>
      obtain ⟨rfl, -⟩ := List.cons.inj heq
      have hchar := h.chars c (hfront.subset List.mem_cons_self)
      rw [isPrincipalChar_of_blank (hblanks c List.mem_cons_self)] at hchar
      exact nomatch hchar

/-- A phrase that reaches into a run that qualifies swallows its article and no white space. -/
theorem phrase_reaches_into_run (hrun : IsRun before run after) (hqualifies : Qualifies run)
    {x l blanks rest : Text} (hx : ∀ c ∈ x.getLast?, isPrincipalChar c = false) (hne : l ≠ [])
    (hphrase : (x ++ l).map fold ∈ phrases) (hblanks : ∀ c ∈ blanks, Text.isBlank c = true)
    (hsplit : run ++ after = l ++ (blanks ++ rest)) :
    x.map fold ∈ verbs ∧ l.map fold = article ∧ ∃ run', run = l ++ run' ∧ rest = run' ++ after := by
  rw [List.map_append] at hphrase
  have hnodot : '.' ∉ l.map fold := fun hdot =>
    dot_not_mem _ hphrase (List.mem_append_right _ hdot)
  -- No phrase has a dot, so it ends inside the run, and there the run has no white space.
  rcases List.append_eq_append_iff.1 hsplit with ⟨beyond, rfl, -⟩ | ⟨run', rfl, hrun'⟩
  · rw [List.map_append] at hnodot
    exact absurd (List.mem_append_left _ hqualifies.dot_mem) hnodot
  · have hrunne : run' ≠ [] := by
      rintro rfl
      rw [List.append_nil] at hqualifies
      exact hnodot hqualifies.dot_mem
    obtain rfl : blanks = [] :=
      (hrun.nil_of_blanks hblanks (List.suffix_append l run').isInfix hrun').resolve_right hrunne
    have hchars : ∀ p ∈ l.map fold, isPrincipalChar p = true := by
      refine List.forall_mem_map.2 fun c hc => ?_
      rw [isPrincipalChar_fold]
      exact hrun.chars c (List.mem_append_left _ hc)
    have hstarts : ∀ p ∈ (x.map fold).getLast?, isPrincipalChar p = false := by
      intro p hp
      rw [List.getLast?_map] at hp
      obtain ⟨c, hc, rfl⟩ := Option.map_eq_some_iff.1 hp
      rw [isPrincipalChar_fold]
      exact hx c hc
    obtain ⟨hverb, harticle⟩ := phrase_split hphrase (by simpa using hne) hchars hstarts
    exact ⟨hverb, harticle, run', rfl, hrun'⟩

/-- **A reading that starts left of the first run that qualifies** ends in front of it or swallows
its article. -/
theorem reading_cases (h : IsFirstRun t before run after) {start u lead blanks rest : Text}
    (ht : t = start ++ u) (hread : IsReading u lead blanks rest)
    (hrest : (principalAt? rest).isSome) (hle : start.length ≤ before.length) :
    (before = start ++ (lead ++ blanks) ∧ rest = run ++ after) ∨
      ∃ verb the run', before = start ++ verb ∧ verb.map fold ∈ verbs ∧
        the.map fold = article ∧ run = the ++ run' ∧ rest = run' ++ after := by
  obtain ⟨x, hbefore, hu⟩ := exists_between (ht.symm.trans h.text) hle
  -- No run in front of the first one that qualifies can be read.
  have hend : x.length ≤ (lead ++ blanks).length := by
    obtain ⟨before', run', after', hsplit, hrun', hqualifies', hle'⟩ :=
      exists_run_of_principalAt? (s := start ++ (lead ++ blanks)) hrest
    have hfirst := h.first before' run' after' (by
      rw [← hsplit, ht, hread.text]
      simp only [List.append_assoc]) hrun' hqualifies'
    rw [hbefore] at hfirst
    simp only [List.length_append] at hfirst hle' ⊢
    omega
  have hsplit : lead ++ (blanks ++ rest) = x ++ (run ++ after) := hread.text.symm.trans hu
  rcases Nat.lt_or_ge x.length lead.length with hlt | hge
  · right
    obtain ⟨l, rfl, hl⟩ := exists_between hsplit.symm (Nat.le_of_lt hlt)
    have hne : l ≠ [] := by
      rintro rfl
      simp at hlt
    have hphrase : (x ++ l).map fold ∈ phrases :=
      (List.mem_cons.1 hread.lead).resolve_left (by simp [hne])
    have hx : ∀ c ∈ x.getLast?, isPrincipalChar c = false := by
      intro c hc
      refine h.isRun.starts c ?_
      rw [hbefore]
      exact List.mem_getLast?_append_of_mem_getLast? hc
    obtain ⟨hverb, harticle, run', hrun', hrest'⟩ :=
      phrase_reaches_into_run h.isRun h.qualifies hx hne hphrase hread.blanks hl
    exact ⟨x, l, run', hbefore, hverb, harticle, hrun', hrest'⟩
  · left
    obtain ⟨y, rfl, hy⟩ := exists_between hsplit hge
    have hyle : y.length ≤ blanks.length := by
      simp only [List.length_append] at hend
      omega
    obtain ⟨z, rfl, hz⟩ := exists_between hy.symm hyle
    have hzblank : ∀ c ∈ z, Text.isBlank c = true :=
      fun c hc => hread.blanks c (List.mem_append_right y hc)
    obtain rfl : z = [] :=
      (h.isRun.nil_of_blanks hzblank List.infix_rfl hz.symm).resolve_right h.qualifies.ne_nil
    exact ⟨by rw [hbefore, List.append_nil], hz.symm⟩

theorem length_of_article {the : Text} (h : the.map fold = article) : the.length = 3 := by
  rw [← List.length_map (f := fold), h]
  rfl

/-- What is read from a place in a run on, if the last suffix of the run stands further right. -/
theorem principalAt?_behind {lead run : Text} (hrun : IsRun before (lead ++ run) after) {o : Nat}
    (ho : 1 ≤ o) (hlast : IsLastSuffix (lead ++ run) (lead.length + o)) :
    principalAt? (run ++ after) = some (run.take (o + suffix.length)) := by
  have hchars : ∀ c ∈ run, isPrincipalChar c = true :=
    fun c hc => hrun.chars c (List.mem_append_right lead hc)
  rw [principalAt?_append hchars hrun.ends, principalAt?_of_last hchars ho hlast.of_append_left]

theorem exists_start_of_swallows (h : IsFirstRun t before run after) {o : Nat}
    (hlast : IsLastSuffix run o) (hswallows : Swallows before run o) :
    ∃ start verb u, t = start ++ u ∧ before = start ++ verb ∧ verb.map fold ∈ verbs ∧
      (matchAt? u).isSome := by
  obtain ⟨⟨beyond, hbeyond⟩, ⟨verb', hverb', ⟨front, hfront⟩⟩, ho⟩ := hswallows
  obtain ⟨start, verb, rfl, -, rfl⟩ := List.map_eq_append_iff.1 hfront.symm
  obtain ⟨the, run', rfl, hthe, -⟩ := List.map_eq_append_iff.1 hbeyond.symm
  have hlength := length_of_article hthe
  obtain ⟨o, rfl⟩ : ∃ o', o = the.length + o' := ⟨o - 3, by omega⟩
  have hsome : (principalAt? (run' ++ after)).isSome := by
    rw [principalAt?_behind h.isRun (by omega) hlast]
    rfl
  have hread : IsReading (verb ++ (the ++ (run' ++ after))) (verb ++ the) [] (run' ++ after) := by
    refine ⟨?_, ?_, fun c hc => nomatch hc⟩
    · rw [List.append_assoc, List.nil_append]
    · rw [List.map_append, hthe]
      exact List.mem_cons_of_mem _ (append_article_mem _ hverb')
  refine ⟨start, verb, verb ++ (the ++ (run' ++ after)), ?_, rfl, hverb',
    matchAt?_isSome hread hsome⟩
  rw [h.text]
  simp only [List.append_assoc]

theorem readFrom_behind_article {start verb the run' found : Text} {o : Nat}
    (hrun : IsRun before (the ++ run') after) (hbefore : before = start ++ verb)
    (hverb : verb.map fold ∈ verbs) (hthe : the.map fold = article)
    (hlast : IsLastSuffix (the ++ run') o) (hrest : principalAt? (run' ++ after) = some found) :
    readFrom before (the ++ run') o = found := by
  have hlength := length_of_article hthe
  have hchars : ∀ c ∈ run', isPrincipalChar c = true :=
    fun c hc => hrun.chars c (List.mem_append_right the hc)
  obtain ⟨o', ho', hstands⟩ := exists_suffix_of_principalAt?
    ((principalAt?_append hchars hrun.ends).symm.trans hrest)
  have hle := hlast.2 _ (hstands.append_left the)
  obtain ⟨o, rfl⟩ : ∃ o', o = the.length + o' := ⟨o - 3, by omega⟩
  have hswallows : Swallows before (the ++ run') (the.length + o) := by
    refine ⟨?_, ⟨verb.map fold, hverb, ?_⟩, by omega⟩
    · rw [List.map_append, hthe]
      exact List.prefix_append _ _
    · rw [hbefore, List.map_append]
      exact List.suffix_append _ _
  rw [principalAt?_behind hrun (by omega) hlast] at hrest
  rw [readFrom, if_pos hswallows, Nat.add_assoc, List.take_length_add_append, ← hlength,
    List.drop_left, Option.some.inj hrest]

/-- **The principal of a text** is read from its first run that qualifies. -/
theorem match?_of_first (h : IsFirstRun t before run after) {o : Nat} (hlast : IsLastSuffix run o) :
    match? t = some (readFrom before run o) := by
  obtain ⟨o', ho', hstands⟩ := h.qualifies
  have ho : 1 ≤ o := Nat.le_trans ho' (hlast.2 o' hstands)
  have hfound : principalAt? (run ++ after) = some (run.take (o + suffix.length)) := by
    rw [principalAt?_append h.isRun.chars h.isRun.ends, principalAt?_of_last h.isRun.chars ho hlast]
  have hplain : IsReading (run ++ after) [] [] (run ++ after) :=
    ⟨rfl, List.mem_cons_self, fun c hc => nomatch hc⟩
  have hsome : (matchAt? (run ++ after)).isSome := matchAt?_isSome hplain (hfound ▸ rfl)
  obtain ⟨start, u, found, ht, hmatch, hat, hleft⟩ := match?_leftmost h.text hsome
  obtain ⟨lead, blanks, rest, hread, hrest⟩ := exists_reading hat
  have hle := hleft before (run ++ after) h.text hsome
  rw [hmatch]
  rcases reading_cases h ht hread (hrest ▸ rfl) hle with ⟨hbefore, rfl⟩ |
    ⟨verb, the, run', hbefore, hverb, hthe, rfl, rfl⟩
  · have hnot : ¬ Swallows before run o := by
      intro hswallows
      obtain ⟨start', verb, u', ht', hbefore', hverb, hsome'⟩ :=
        exists_start_of_swallows h hlast hswallows
      obtain ⟨x, rfl, hx⟩ := exists_between (hbefore.symm.trans hbefore') (hleft _ _ ht' hsome')
      refine not_verb_suffix hread.lead hread.blanks hverb ?_
      rw [← map_fold_of_blanks hread.blanks, ← List.map_append, hx, List.map_append]
      exact List.suffix_append _ _
    rw [readFrom, if_neg hnot, List.drop_zero, ← hfound, hrest]
  · exact congrArg some (readFrom_behind_article h.isRun hbefore hverb hthe hlast hrest).symm

end FirstRun

theorem match?_isSome_iff (t : Text) : (match? t).isSome ↔ HasRun t := by
  constructor
  · intro h
    obtain ⟨found, hfound⟩ := Option.isSome_iff_exists.1 h
    obtain ⟨skipped, u, rfl, hsome⟩ := exists_matchAt? hfound
    obtain ⟨found', hat⟩ := Option.isSome_iff_exists.1 hsome
    obtain ⟨lead, blanks, rest, hread, hrest⟩ := exists_reading hat
    obtain ⟨before, run, after, hsplit, hrun, hqualifies, -⟩ :=
      exists_run_of_principalAt? (s := skipped ++ (lead ++ blanks)) (Option.isSome_of_mem hrest)
    refine ⟨before, run, after, ?_, hrun, hqualifies⟩
    rw [← hsplit, hread.text]
    simp only [List.append_assoc]
  · intro h
    obtain ⟨before, run, after, hfirst⟩ := h.exists_first
    obtain ⟨o, -, hlast⟩ := hfirst.qualifies.exists_last
    rw [match?_of_first hfirst hlast]
    rfl

theorem match?_eq_none_iff (t : Text) : match? t = none ↔ ¬ HasRun t := by
  rw [← match?_isSome_iff, Option.not_isSome_iff_eq_none]

/-! ## What does not matter -/

theorem match?_of_same_run {t before run after after' : Text} (h : IsFirstRun t before run after)
    (h' : IsRun before run after') : match? (before ++ (run ++ after')) = match? t := by
  obtain ⟨o, -, hlast⟩ := h.qualifies.exists_last
  have hfirst' := IsFirstRun.of_not_hasRun h' h.qualifies h.not_hasRun
  rw [match?_of_first h hlast, match?_of_first hfirst' hlast]

/-- A text without a run does not matter in front of another one, if it ends with a boundary and
does not end with the start of a verb. -/
theorem match?_append_left {lead t : Text} (hlead : ∀ c ∈ lead.getLast?, isPrincipalChar c = false)
    (hnone : ¬ HasRun lead)
    (hverbs : ∀ verb ∈ verbs, ∀ y, y <+: verb → y <:+ lead.map fold → y = []) :
    match? (lead ++ t) = match? t := by
  by_cases h : HasRun t
  · obtain ⟨before, run, after, hfirst⟩ := h.exists_first
    obtain ⟨o, -, hlast⟩ := hfirst.qualifies.exists_last
    have hsuffix : ∀ verb ∈ verbs,
        (verb <:+ (lead ++ before).map fold ↔ verb <:+ before.map fold) := by
      intro verb hverb
      rw [List.map_append]
      refine ⟨fun hboth => ?_, fun hbefore => hbefore.trans (List.suffix_append _ _)⟩
      rcases List.suffix_or_suffix_of_suffix hboth (List.suffix_append _ _) with h | ⟨y, rfl⟩
      · exact h
      · obtain ⟨x, hx⟩ := hboth
        rw [← List.append_assoc] at hx
        have hy : y <:+ lead.map fold := ⟨x, List.append_cancel_right hx⟩
        obtain rfl := hverbs _ hverb y (List.prefix_append _ _) hy
        exact List.suffix_rfl
    have hswallows : Swallows (lead ++ before) run o ↔ Swallows before run o :=
      and_congr_right' (and_congr_left' (exists_congr fun verb => and_congr_right (hsuffix verb)))
    rw [match?_of_first hfirst hlast, match?_of_first (hfirst.append_left hlead hnone) hlast]
    simp only [readFrom, hswallows]
  · have hboth : ¬ HasRun (lead ++ t) := fun hrun =>
      ((hasRun_append_iff hlead).1 hrun).elim hnone h
    rw [(match?_eq_none_iff _).2 h, (match?_eq_none_iff _).2 hboth]

theorem not_hasRun_of_not_dot {t : Text} (h : '.' ∉ t.map fold) : ¬ HasRun t := by
  rintro ⟨before, run, after, rfl, -, hqualifies⟩
  refine h ?_
  rw [List.map_append, List.map_append]
  exact List.mem_append_right _ (List.mem_append_left _ hqualifies.dot_mem)

theorem match?_blanks_append {blanks t : Text} (h : ∀ c ∈ blanks, Text.isBlank c = true) :
    match? (blanks ++ t) = match? t := by
  have hfold := map_fold_of_blanks h
  have hverbs : ∀ verb ∈ verbs, verb.head?.map Text.isBlank = some false := by decide
  refine match?_append_left (fun c hc => isPrincipalChar_of_blank (h c (List.mem_of_getLast? hc)))
    (not_hasRun_of_not_dot fun hdot => ?_) fun verb hverb y hstart hsuffix => ?_
  · rw [hfold] at hdot
    exact absurd (h _ hdot) (by decide)
  · rw [hfold] at hsuffix
    cases y with
    | nil => rfl
    | cons c y =>
      obtain ⟨rest, rfl⟩ := hstart
      have hblank := h c (hsuffix.subset List.mem_cons_self)
      have hletter : Text.isBlank c = false := Option.some.inj (hverbs _ hverb)
      rw [hletter] at hblank
      exact nomatch hblank

theorem match?_append_blanks {t blanks : Text} (h : ∀ c ∈ blanks, Text.isBlank c = true) :
    match? (t ++ blanks) = match? t := by
  have hchars : ∀ c ∈ blanks, isPrincipalChar c = false :=
    fun c hc => isPrincipalChar_of_blank (h c hc)
  by_cases hrun : HasRun t
  · obtain ⟨before, run, after, hfirst⟩ := hrun.exists_first
    have hends : ∀ c ∈ (after ++ blanks).head?, isPrincipalChar c = false := by
      intro c hc
      rw [List.head?_append] at hc
      rcases Option.or_eq_some_iff.1 hc with hc | ⟨-, hc⟩
      · exact hfirst.isRun.ends c hc
      · exact hchars c (List.mem_of_head? hc)
    rw [← match?_of_same_run hfirst ⟨hfirst.isRun.chars, hfirst.isRun.starts, hends⟩, hfirst.text]
    simp only [List.append_assoc]
  · have hnone : ¬ HasRun (t ++ blanks) := fun hboth => hrun (hboth.of_append hchars)
    rw [(match?_eq_none_iff _).2 hrun, (match?_eq_none_iff _).2 hnone]

theorem match?_trim (t : Text) : match? (Text.trim t) = match? t := by
  obtain ⟨front, back, ht, hfront, hback⟩ := Text.exists_trim t
  calc match? (Text.trim t)
      = match? (Text.trim t ++ back) := (match?_append_blanks hback).symm
    _ = match? (front ++ (Text.trim t ++ back)) := (match?_blanks_append hfront).symm
    _ = match? t := by rw [← ht]

theorem match?_append_arn (before : Text) {lead t : Text} (hlead : lead.map fold = arn)
    (hnone : ¬ HasRun (before ++ lead)) : match? (before ++ (lead ++ t)) = match? t := by
  have hverbs : ∀ verb ∈ verbs, '/' ∉ verb := by decide
  have hlast : ((before ++ lead).map fold).getLast? = some '/' := by
    rw [List.map_append, hlead, List.getLast?_append]
    rfl
  rw [← List.append_assoc]
  refine match?_append_left (fun c hc => ?_) hnone fun verb hverb y hstart hsuffix => ?_
  · rw [List.getLast?_map, hc] at hlast
    rw [← isPrincipalChar_fold, Option.some.inj hlast]
    decide
  · obtain ⟨x, hx⟩ := hsuffix
    rw [← hx, List.getLast?_append] at hlast
    cases hy : y.getLast? with
    | none => exact List.getLast?_eq_none_iff.1 hy
    | some c =>
      rw [hy, Option.some_or] at hlast
      obtain rfl := Option.some.inj hlast
      exact absurd (hstart.subset (List.mem_of_getLast? hy)) (hverbs verb hverb)

/-- **Principals are read from the first run that qualifies.** A text mentions a principal exactly
if one of its runs holds a suffix behind its first character. The principal is what the first of
them holds up to its last suffix; it starts behind the article if a phrase swallows that. White
space around the text and the beginning of an ARN in front of it do not matter, and nor does what
stands behind the run. -/
theorem principal_of_first_run :
    (∀ t, (match? t).isSome ↔ HasRun t) ∧
    (∀ t found, match? t = some found ↔ ∃ before run after o, IsFirstRun t before run after ∧
      IsLastSuffix run o ∧ found = readFrom before run o) ∧
    (∀ blanks t blanks' : Text, (∀ c ∈ blanks, Text.isBlank c = true) →
      (∀ c ∈ blanks', Text.isBlank c = true) → match? (blanks ++ (t ++ blanks')) = match? t) ∧
    (∀ lead t : Text, lead.map fold = arn → match? (lead ++ t) = match? t) ∧
    (∀ before lead t : Text, lead.map fold = arn → match? (before ++ lead) = none →
      match? (before ++ (lead ++ t)) = match? t) ∧
    (∀ t before run after after', IsFirstRun t before run after → IsRun before run after' →
      match? (before ++ (run ++ after')) = match? t) := by
  refine ⟨match?_isSome_iff, fun t found => ⟨fun h => ?_, ?_⟩, fun blanks t blanks' h h' => ?_,
    fun lead t hlead => ?_, fun before lead t hlead hnone => ?_,
    fun t before run after after' => match?_of_same_run⟩
  · obtain ⟨before, run, after, hfirst⟩ := ((match?_isSome_iff t).1 (h ▸ rfl)).exists_first
    obtain ⟨o, -, hlast⟩ := hfirst.qualifies.exists_last
    exact ⟨before, run, after, o, hfirst, hlast,
      Option.some.inj (h.symm.trans (match?_of_first hfirst hlast))⟩
  · rintro ⟨before, run, after, o, hfirst, hlast, rfl⟩
    exact match?_of_first hfirst hlast
  · rw [match?_blanks_append h, match?_append_blanks h']
  · refine match?_append_arn [] hlead (not_hasRun_of_not_dot ?_)
    rw [List.nil_append, hlead]
    exact dot_not_mem arn arn_mem
  · exact match?_append_arn before hlead ((match?_eq_none_iff _).1 hnone)

-- The phrase takes the first letters of a service whose name begins like the article.
example : match? "It trusts theory.amazonaws.com, not x.amazonaws.com.".toList =
    some "ory.amazonaws.com".toList := by
  decide

end Roster.Principal
