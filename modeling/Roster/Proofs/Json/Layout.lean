import Mathlib.Data.List.Forall2
import Roster.Json.Record
import Roster.Proofs.Json.Numbers
import Roster.Proofs.Json.Strings

/-!
# Arrays and objects are read back

A reader reads a value as something (`ReadsAs`) if it does so wherever the value stands in a written
text: at any level of indentation, behind any blanks and in front of anything that may follow a
value. Readers of arrays and objects are built from readers of their parts, and so are the facts
about them.

**Theorem (`readItems_array`).** If the items of an array are read one by one, so is the array.

**Theorem (`readMembers_object`).** If a loop over the members of an object gathers a state
(`Gathers`), so does reading the object.

The rounds of both loops match the items and members that are written behind the first one, which is
what the inductions are on.
-/

namespace Roster.Json

variable {α σ : Type}

/-- A value in ASCII form at a level of indentation. -/
abbrev Value.asciiAt (v : Value) (level : Nat) : Text := v.write (asciiFragment []) level

/-! ## Blanks -/

theorem skipSpace_append {gap : Text} (h : gap.all isSpace = true) (t : Text) :
    skipSpace (gap ++ t) = skipSpace t :=
  List.dropWhile_append_of_pos (List.all_eq_true.1 h)

theorem skipSpace_cons {c : Char} (h : isSpace c = false) (t : Text) :
    skipSpace (c :: t) = c :: t := by
  rw [skipSpace, List.dropWhile_cons, if_neg (by simp [h])]

/-- Behind blanks stands what opens the text. -/
theorem skipSpace_gap {gap t rest : Text} {c : Char} (hgap : gap.all isSpace = true)
    (ht : t = c :: rest) (hc : isSpace c = false) : skipSpace (gap ++ t) = c :: rest := by
  rw [skipSpace_append hgap, ht, skipSpace_cons hc]

theorem newLine_blank (level : Nat) : (newLine level).all isSpace = true := by
  rw [newLine, List.all_cons, List.all_replicate]
  simp [isSpace]

/-- The character may open a value. -/
def opensValue (c : Char) : Bool :=
  c = 'n' || c = 't' || c = 'f' || c = '"' || c = '-' || c = '[' || c = '{' || Text.isDigit c

theorem ne_of_opensValue {c d : Char} (h : opensValue c = true) (hd : opensValue d = false) :
    c ≠ d := by
  rintro rfl
  exact nomatch h.symm.trans hd

theorem isSpace_of_opensValue {c : Char} (h : opensValue c = true) : isSpace c = false := by
  have hne : ∀ d, opensValue d = false → c ≠ d := fun d => ne_of_opensValue h
  simp [isSpace, hne ' ' (by decide), hne '\n' (by decide), hne '\t' (by decide),
    hne '\r' (by decide)]

/-- What stands in front of an item or a member: blanks, and a comma if it is not the first. -/
def lead (first : Bool) (gap : Text) : Text := if first then gap else ',' :: gap

/-! ## Readers -/

/-- The reader reads the written value as `x`, wherever it stands. -/
structure ReadsAs (read : Reader α) (v : Value) (x : α) : Prop where
  /-- The first character of the value. -/
  opens : ∀ level, ∃ c t, v.asciiAt level = c :: t ∧ opensValue c = true
  /-- What is read. -/
  reads : ∀ (level : Nat) (gap rest : Text), gap.all isSpace = true → Ends rest →
    read (gap ++ (v.asciiAt level ++ rest)) = .ok (x, rest)

/-- A document is read if its value is. -/
theorem ReadsAs.readDocument {read : Reader α} {v : Value} {x : α} (h : ReadsAs read v x) :
    readDocument read v.ascii = .ok x := by
  have hread := h.reads 0 [] [] rfl ends_nil
  rw [List.nil_append, List.append_nil] at hread
  rw [Json.readDocument, Value.ascii, hread]
  rfl

/-! ## Arrays -/

theorem nextItem?_lead {gap : Text} {c : Char} (hgap : gap.all isSpace = true)
    (hc : opensValue c = true) (first : Bool) (t : Text) :
    nextItem? first (lead first gap ++ c :: t) = .ok (some (c :: t)) := by
  have hbracket : c ≠ ']' := ne_of_opensValue hc (by decide)
  have hcomma : c ≠ ',' := ne_of_opensValue hc (by decide)
  have hblank : skipSpace (gap ++ c :: t) = c :: t :=
    skipSpace_gap hgap rfl (isSpace_of_opensValue hc)
  cases first with
  | true =>
    rw [nextItem?, lead, if_pos rfl, hblank]
    simp [hbracket, hcomma]
  | false =>
    rw [nextItem?, lead, if_neg Bool.false_ne_true, List.cons_append,
      skipSpace_cons (by decide)]
    simp [hblank, hbracket]

theorem nextItem?_end {gap : Text} (hgap : gap.all isSpace = true) (first : Bool) (t : Text) :
    nextItem? first (gap ++ ']' :: t) = .ok none := by
  have hblank : skipSpace (gap ++ ']' :: t) = ']' :: t := skipSpace_gap hgap rfl (by decide)
  simp [nextItem?, hblank]

theorem behind_end {gap : Text} {bracket : Char} (hgap : gap.all isSpace = true)
    (hbracket : isSpace bracket = false) (t : Text) :
    behind bracket (gap ++ bracket :: t) = t := by
  have hblank : skipSpace (gap ++ bracket :: t) = bracket :: t := skipSpace_gap hgap rfl hbracket
  simp [behind, hblank]

theorem readItems_cons {item : Reader α} {v : Value} {x : α} {xs : List α} {after rest : Text}
    {clock gap : Text} (hv : ReadsAs item v x) (hafter : Ends after)
    (hothers : readItems item clock false after = .ok (xs, rest)) (hgap : gap.all isSpace = true)
    (k : Char) (first : Bool) (level : Nat) :
    readItems item (k :: clock) first (lead first gap ++ (v.asciiAt level ++ after)) =
      .ok (x :: xs, rest) := by
  have hitem := hv.reads level [] after rfl hafter
  obtain ⟨c, t, ht, hc⟩ := hv.opens level
  rw [List.nil_append, ht, List.cons_append] at hitem
  rw [readItems, ht, List.cons_append, nextItem?_lead hgap hc]
  simp only [bind, Except.bind, hitem, hothers]

theorem ends_writeItems (level level' : Nat) (vs : List Value) (t : Text) :
    Ends (writeItems (asciiFragment []) level vs ++ (newLine level' ++ t)) := by
  cases vs with
  | nil => exact ends_newLine level' t
  | cons v vs => exact ends_comma _

theorem length_le_writeItems (level : Nat) (vs : List Value) :
    vs.length ≤ (writeItems (asciiFragment []) level vs).length := by
  induction vs with
  | nil => exact Nat.zero_le _
  | cons v vs ih =>
    simp only [writeItems, List.length_cons, List.length_append]
    omega

/-- The items behind the first one, as long as there is a round for each and one for the bracket. -/
theorem readItems_writeItems {item : Reader α} {vs : List Value} {xs : List α}
    (h : List.Forall₂ (ReadsAs item) vs xs) {clock : Text} (hclock : vs.length < clock.length)
    (level level' : Nat) (rest : Text) :
    readItems item clock false
      (writeItems (asciiFragment []) level vs ++ (newLine level' ++ ']' :: rest)) =
        .ok (xs, rest) := by
  induction h generalizing clock with
  | nil =>
    cases clock with
    | nil => exact absurd hclock (Nat.not_lt_zero _)
    | cons k clock =>
      have hblank := newLine_blank level'
      rw [writeItems, List.nil_append, readItems, nextItem?_end hblank]
      simp only [bind, Except.bind, behind_end hblank (by decide : isSpace ']' = false)]
  | @cons v x vs xs hv _ ih =>
    cases clock with
    | nil => exact absurd hclock (Nat.not_lt_zero _)
    | cons k clock =>
      have hothers := ih (Nat.lt_of_succ_lt_succ hclock)
      have hends := ends_writeItems level level' vs (']' :: rest)
      have hstep := readItems_cons hv hends hothers (newLine_blank level) k false level
      simpa [writeItems, lead] using hstep

/-- **The items of an array are read back.** -/
theorem readItems_array {item : Reader α} {vs : List Value} {xs : List α}
    (h : List.Forall₂ (ReadsAs item) vs xs) (level : Nat) (rest : Text) :
    ∃ t, (Value.array vs).asciiAt level ++ rest = '[' :: t ∧
      readItems item ('[' :: t) true t = .ok (xs, rest) := by
  cases h with
  | nil => exact ⟨']' :: rest, rfl, rfl⟩
  | @cons v x vs xs hv hvs =>
    refine ⟨newLine (level + 1) ++ (v.asciiAt (level + 1) ++
      (writeItems (asciiFragment []) (level + 1) vs ++ (newLine level ++ ']' :: rest))), ?_, ?_⟩
    · simp [Value.asciiAt, Value.write]
    · have hlength := length_le_writeItems (level + 1) vs
      have hends := ends_writeItems (level + 1) level vs (']' :: rest)
      refine readItems_cons hv hends ?_ (newLine_blank (level + 1)) '[' true (level + 1)
      refine readItems_writeItems hvs ?_ (level + 1) level rest
      simp only [List.length_append, List.length_cons]
      omega

/-! ## Objects -/

theorem quote_append (key t : Text) :
    quote (asciiFragment []) key ++ t = '"' :: (key.flatMap asciiChar ++ '"' :: t) := by
  rw [quote_asciiFragment, literal]
  simp

theorem nextKey?_lead {gap : Text} (hgap : gap.all isSpace = true) (first : Bool) (key t : Text) :
    nextKey? first (lead first gap ++ (quote (asciiFragment []) key ++ t)) =
      .ok (some (key, t)) := by
  have hblank : skipSpace (gap ++ (quote (asciiFragment []) key ++ t)) =
      '"' :: (key.flatMap asciiChar ++ '"' :: t) :=
    skipSpace_gap hgap (quote_append key t) (by decide)
  cases first with
  | true =>
    rw [nextKey?, lead, if_pos rfl, hblank]
    simp [readString_asciiChar, Except.map]
  | false =>
    rw [nextKey?, lead, if_neg Bool.false_ne_true, List.cons_append,
      skipSpace_cons (by decide)]
    simp [hblank, readString_asciiChar, Except.map]

theorem nextKey?_end {gap : Text} (hgap : gap.all isSpace = true) (first : Bool) (t : Text) :
    nextKey? first (gap ++ '}' :: t) = .ok none := by
  have hblank : skipSpace (gap ++ '}' :: t) = '}' :: t := skipSpace_gap hgap rfl (by decide)
  simp [nextKey?, hblank]

theorem passColon_colon (t : Text) : passColon (": ".toList ++ t) = .ok (' ' :: t) := rfl

/-- The loop over the written members of an object takes the state `s` to the state `s'`. -/
inductive Gathers (member : Text → σ → Reader σ) : σ → List (Text × Value) → σ → Prop where
  | nil {s : σ} : Gathers member s [] s
  | cons {s s' s'' : σ} {key : Text} {v : Value} {l : List (Text × Value)}
      (head : ∀ level rest, Ends rest →
        member key s (": ".toList ++ (v.asciiAt level ++ rest)) = .ok (s', rest))
      (tail : Gathers member s' l s'') : Gathers member s ((key, v) :: l) s''

theorem readMembers_cons {member : Text → σ → Reader σ} {s s' s'' : σ} {key : Text} {v : Value}
    {after rest clock gap : Text} {level : Nat}
    (hmember : member key s (": ".toList ++ (v.asciiAt level ++ after)) = .ok (s', after))
    (hothers : readMembers member clock false s' after = .ok (s'', rest))
    (hgap : gap.all isSpace = true) (k : Char) (first : Bool) :
    readMembers member (k :: clock) first s (lead first gap ++
      (quote (asciiFragment []) key ++ (": ".toList ++ (v.asciiAt level ++ after)))) =
        .ok (s'', rest) := by
  rw [readMembers, nextKey?_lead hgap]
  simp only [bind, Except.bind, hmember, hothers]

theorem ends_writeMembers (level level' : Nat) (l : List (Text × Value)) (t : Text) :
    Ends (writeMembers (asciiFragment []) level l ++ (newLine level' ++ t)) := by
  cases l with
  | nil => exact ends_newLine level' t
  | cons e l => exact ends_comma _

theorem length_le_writeMembers (level : Nat) (l : List (Text × Value)) :
    l.length ≤ (writeMembers (asciiFragment []) level l).length := by
  induction l with
  | nil => exact Nat.zero_le _
  | cons e l ih =>
    simp only [writeMembers, List.length_cons, List.length_append]
    omega

/-- The members behind the first one, as long as there is a round for each and one for the brace. -/
theorem readMembers_writeMembers {member : Text → σ → Reader σ} {s s' : σ}
    {l : List (Text × Value)} (h : Gathers member s l s') {clock : Text}
    (hclock : l.length < clock.length) (level level' : Nat) (rest : Text) :
    readMembers member clock false s
      (writeMembers (asciiFragment []) level l ++ (newLine level' ++ '}' :: rest)) =
        .ok (s', rest) := by
  induction h generalizing clock with
  | nil =>
    cases clock with
    | nil => exact absurd hclock (Nat.not_lt_zero _)
    | cons k clock =>
      have hblank := newLine_blank level'
      rw [writeMembers, List.nil_append, readMembers, nextKey?_end hblank]
      simp only [bind, Except.bind, behind_end hblank (by decide : isSpace '}' = false)]
  | @cons s s' s'' key v l hv _ ih =>
    cases clock with
    | nil => exact absurd hclock (Nat.not_lt_zero _)
    | cons k clock =>
      have hothers := ih (Nat.lt_of_succ_lt_succ hclock)
      have hends := ends_writeMembers level level' l ('}' :: rest)
      have hstep := readMembers_cons (hv level _ hends) hothers (newLine_blank level) k false
      simpa [writeMembers, lead] using hstep

/-- **The members of an object are read back.** -/
theorem readMembers_object {member : Text → σ → Reader σ} {s s' : σ} {l : List (Text × Value)}
    (h : Gathers member s l s') (level : Nat) (rest : Text) :
    ∃ t, (Value.object l).asciiAt level ++ rest = '{' :: t ∧
      readMembers member ('{' :: t) true s t = .ok (s', rest) := by
  cases h with
  | nil => exact ⟨'}' :: rest, rfl, rfl⟩
  | @cons s s' s'' key v l hv hl =>
    refine ⟨newLine (level + 1) ++ (quote (asciiFragment []) key ++ (": ".toList ++
      (v.asciiAt (level + 1) ++ (writeMembers (asciiFragment []) (level + 1) l ++
        (newLine level ++ '}' :: rest))))), ?_, ?_⟩
    · simp [Value.asciiAt, Value.write]
    · have hlength := length_le_writeMembers (level + 1) l
      have hends := ends_writeMembers (level + 1) level l ('}' :: rest)
      refine readMembers_cons (hv (level + 1) _ hends) ?_ (newLine_blank (level + 1)) '{' true
      refine readMembers_writeMembers hl ?_ (level + 1) level rest
      simp only [List.length_append, List.length_cons]
      omega

end Roster.Json
