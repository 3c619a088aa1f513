import Mathlib.Data.List.DropRight
import Mathlib.Data.List.Infix
import Roster.Text.Basic

/-!
# Laws of cutting

A text is cut into pieces at a separator, or in two around the first occurrence of a mark. Where the
mark cannot overlap itself the cut is found wherever the mark was put, whatever stands around it.

**Theorem (`cutAt?_eq_some_iff`).** The cut is at the occurrence with the shortest text in front.

**Theorem (`cutAt?_append`).** A mark that cannot overlap itself is found behind every text in which
it does not occur.

A text in front and the start of the mark could only make up another occurrence of the mark if that
start were one of its ends too, which is what `Unbordered` excludes.
-/

namespace Roster.Text

variable {mark t : Text}

/-! ## Pieces -/

theorem splitOn_of_not_mem {sep : Char} (h : sep ∉ t) : splitOn sep t = [t] := by
  induction t with
  | nil => rfl
  | cons c cs ih =>
    rw [List.mem_cons, not_or] at h
    rw [splitOn, if_neg (Ne.symm h.1), ih h.2]

theorem splitOn_append_sep (sep : Char) (t t' : Text) :
    splitOn sep (t ++ sep :: t') = splitOn sep t ++ splitOn sep t' := by
  induction t with
  | nil => simp [splitOn]
  | cons c cs ih =>
    by_cases hc : c = sep
    · simp [splitOn, hc, ih]
    · cases hpieces : splitOn sep cs with
      | nil => exact absurd hpieces (splitOn_ne_nil sep cs)
      | cons piece pieces => simp [splitOn, hc, ih, hpieces]

/-! ## The first occurrence -/

theorem cutAt?_eq_some_iff {before after : Text} :
    cutAt? mark t = some (before, after) ↔
      t = before ++ mark ++ after ∧
        ∀ front back, t = front ++ mark ++ back → before.length ≤ front.length := by
  induction t generalizing before with
  | nil =>
    rw [cutAt?]
    constructor
    · intro h
      split at h
      · next hempty =>
        obtain ⟨rfl, rfl⟩ := Prod.mk.inj (Option.some.inj h)
        rw [List.isEmpty_iff.1 hempty]
        exact ⟨rfl, fun _ _ _ => Nat.zero_le _⟩
      · exact nomatch h
    · rintro ⟨hsplit, -⟩
      obtain ⟨hfront, rfl⟩ := List.append_eq_nil_iff.1 hsplit.symm
      obtain ⟨rfl, rfl⟩ := List.append_eq_nil_iff.1 hfront
      rfl
  | cons c cs ih =>
    rw [cutAt?]
    -- The mark stands here, or every place where it stands is one of the tail moved by one.
    cases hmark : after? mark (c :: cs) with
    | some rest =>
      have hrest : c :: cs = mark ++ rest := after?_eq_some_iff.1 hmark
      constructor
      · intro h
        obtain ⟨rfl, rfl⟩ := Prod.mk.inj (Option.some.inj h)
        exact ⟨hrest, fun _ _ _ => Nat.zero_le _⟩
      · rintro ⟨hsplit, hfirst⟩
        have hbefore : before = [] :=
          List.eq_nil_of_length_eq_zero (Nat.le_zero.1 (hfirst [] rest hrest))
        subst hbefore
        have hafter : rest = after := List.append_cancel_left (hrest.symm.trans hsplit)
        rw [hafter]
    | none =>
      have hnot : ∀ back, c :: cs ≠ mark ++ back := fun back hback =>
        nomatch hmark.symm.trans (after?_eq_some_iff.2 hback)
      simp only [Option.map_eq_some_iff, Prod.exists, Prod.mk.injEq]
      constructor
      · rintro ⟨inner, rest, hcut, rfl, rfl⟩
        obtain ⟨hsplit, hfirst⟩ := ih.1 hcut
        refine ⟨by rw [hsplit]; rfl, fun front back hfront => ?_⟩
        cases front with
        | nil => exact absurd hfront (hnot back)
        | cons d front =>
          have htail : cs = front ++ mark ++ back := (List.cons.inj hfront).2
          exact Nat.succ_le_succ (hfirst front back htail)
      · rintro ⟨hsplit, hfirst⟩
        cases before with
        | nil => exact absurd hsplit (hnot after)
        | cons d before =>
          obtain ⟨rfl, htail⟩ := List.cons.inj hsplit
          refine ⟨before, after, ih.2 ⟨htail, fun front back hfront => ?_⟩, rfl, rfl⟩
          exact Nat.le_of_succ_le_succ (hfirst (c :: front) back (by rw [hfront]; rfl))

theorem cutAt?_eq_none_iff : cutAt? mark t = none ↔ ¬ mark <:+: t := by
  induction t with
  | nil => cases mark <;> simp [cutAt?]
  | cons c cs ih =>
    rw [cutAt?, List.infix_cons_iff, not_or, ← ih]
    cases hmark : after? mark (c :: cs) with
    | some rest =>
      have hstarts : mark <+: c :: cs := ⟨rest, (after?_eq_some_iff.1 hmark).symm⟩
      simp [hstarts]
    | none =>
      have hstarts : ¬ mark <+: c :: cs := by
        rintro ⟨rest, hrest⟩
        exact nomatch hmark.symm.trans (after?_eq_some_iff.2 hrest.symm)
      simp [hstarts]

theorem occursIn_iff : occursIn mark t = true ↔ mark <:+: t := by
  rw [occursIn, ← Option.ne_none_iff_isSome, ne_eq, cutAt?_eq_none_iff, not_not]

theorem not_infix_of_cutAt? {before after : Text} (h : cutAt? mark t = some (before, after))
    (hmark : mark ≠ []) : ¬ mark <:+: before := by
  rintro ⟨front, back, hinside⟩
  obtain ⟨hsplit, hfirst⟩ := cutAt?_eq_some_iff.1 h
  have hearlier : t = front ++ mark ++ (back ++ mark ++ after) := by
    rw [hsplit, ← hinside]
    simp
  have hle := hfirst front _ hearlier
  have hpos : 0 < mark.length := List.length_pos_iff.2 hmark
  simp only [← hinside, List.length_append] at hle
  omega

/-! ## Marks that cannot overlap themselves -/

/-- No start of the mark is one of its ends, except for nothing and the mark itself. -/
def Unbordered (mark : Text) : Prop :=
  ∀ part, part <+: mark → part <:+ mark → part = [] ∨ part = mark

/-- A mark that ends with a character of which it has no other cannot overlap itself. -/
theorem unbordered_of_last {body : Text} {c : Char} (h : c ∉ body) : Unbordered (body ++ [c]) := by
  intro part hstart hend
  rcases List.prefix_concat_iff.1 hstart with heq | hbody
  · exact .inr heq
  · rcases List.eq_nil_or_concat' part with hnil | ⟨inner, d, rfl⟩
    · exact .inl hnil
    · have hlast : d = c := by
        have hlasts := hend.getLast (by simp)
        simpa using hlasts
      have hmem : d ∈ inner ++ [d] := by simp
      exact absurd (hlast ▸ hbody.subset hmem) h

/-- **A mark is found where it was put,** if it neither occurs in front nor overlaps itself. -/
theorem cutAt?_append (hmark : Unbordered mark) {before : Text} (hbefore : ¬ mark <:+: before)
    (after : Text) : cutAt? mark (before ++ mark ++ after) = some (before, after) := by
  refine cutAt?_eq_some_iff.2 ⟨rfl, fun front back hfront => Nat.le_of_not_lt fun hlt => ?_⟩
  -- The occurrence that starts earlier reaches into the one that was put behind `before`.
  have hlonger : front <+: before := by
    have hfront' : front <+: before ++ mark ++ after := by
      rw [hfront, List.append_assoc]
      exact List.prefix_append _ _
    refine List.prefix_of_prefix_length_le hfront' ?_ (by omega)
    rw [List.append_assoc]
    exact List.prefix_append _ _
  obtain ⟨part, rfl⟩ := hlonger
  have hboth : part ++ (mark ++ after) = mark ++ back := by
    simpa [List.append_assoc] using hfront
  rcases List.append_eq_append_iff.1 hboth with ⟨left, hleft, hright⟩ | ⟨inner, hinner, -⟩
  · -- The mark is longer than what stands in front of the other one.
    have hstart : left <+: mark := by
      have hleft' : left <+: mark ++ after := hright ▸ List.prefix_append _ _
      refine List.prefix_of_prefix_length_le hleft' (List.prefix_append _ _) ?_
      rw [hleft, List.length_append]
      omega
    have hend : left <:+ mark := by
      rw [hleft]
      exact List.suffix_append _ _
    have hpart : part ≠ [] := by
      rintro rfl
      simp at hlt
    rcases hmark left hstart hend with rfl | heq
    · rw [List.append_nil] at hleft
      exact hbefore (hleft ▸ (List.suffix_append front part).isInfix)
    · rw [heq] at hleft
      exact hpart (List.self_eq_append_left.1 hleft)
  · have hinside : mark <:+: part := by
      rw [hinner]
      exact (List.prefix_append mark inner).isInfix
    exact hbefore (hinside.trans (List.suffix_append front part).isInfix)

/-- A mark does not reach across a character that it does not have. -/
theorem infix_of_infix_append {front back : Text} {c : Char} (hc : c ∉ mark)
    (h : mark <:+: front ++ c :: back) : mark <:+: front ∨ mark <:+: back := by
  obtain ⟨left, right, hsplit⟩ := h
  rcases List.append_eq_append_iff.1 hsplit with ⟨gap, hfront, -⟩ | ⟨gap, hfront, hback⟩
  · exact .inl ⟨left, gap, hfront.symm⟩
  cases gap with
  | nil =>
    rw [List.append_nil] at hfront
    exact .inl (hfront ▸ (List.suffix_append left mark).isInfix)
  | cons d gap =>
    obtain ⟨rfl, rfl⟩ := List.cons.inj hback
    rcases List.append_eq_append_iff.1 hfront with ⟨inner, -, hmark⟩ | ⟨inner, -, hgap⟩
    · exact absurd (by rw [hmark]; simp) hc
    · cases inner with
      | nil => exact absurd (by rw [← List.nil_append mark, ← hgap]; simp) hc
      | cons e inner =>
        have hgap' : gap = inner ++ mark := (List.cons.inj hgap).2
        rw [hgap']
        exact .inr ⟨inner, right, rfl⟩

/-! ## The end of a text -/

theorem exists_last_of_mem {c : Char} (h : c ∈ t) :
    ∃ front back, t = front ++ c :: back ∧ c ∉ back := by
  obtain ⟨back, front, hsplit, hback⟩ := List.eq_append_cons_of_mem (List.mem_reverse.2 h)
  refine ⟨front.reverse, back.reverse, ?_, by simpa using hback⟩
  rw [← List.reverse_reverse t, hsplit]
  simp

theorem dropEndWhile_eq (p : Char → Bool) (t : Text) : dropEndWhile p t = t.rdropWhile p := rfl

theorem dropEndWhile_append {p : Char → Bool} {front back : Text} {c : Char} (hc : p c = false)
    (hback : ∀ d ∈ back, p d = true) :
    dropEndWhile p (front ++ c :: back) = front ++ [c] := by
  have hdrop : (back.reverse ++ c :: front.reverse).dropWhile p = c :: front.reverse := by
    rw [List.dropWhile_append_of_pos fun d hd => hback d (List.mem_reverse.1 hd),
      List.dropWhile_cons, if_neg (by simp [hc])]
  rw [dropEndWhile, List.reverse_append, List.reverse_cons, List.append_assoc,
    List.singleton_append, hdrop, List.reverse_cons, List.reverse_reverse]

end Roster.Text
