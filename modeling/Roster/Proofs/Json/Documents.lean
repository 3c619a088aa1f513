import Mathlib.Data.List.TakeWhile
import Roster.Proofs.Json.Spelling

/-!
# What is read is spelled

The reader reads nothing but what `Spells` describes: what it takes off a text is white space and a
text that spells the value.

**Theorem (`readValue_ok`).** Whatever is read as a value is spelled by the text that is read.

**Theorem (`parse_eq_ok_iff`).** A document is read as a value exactly if it spells the value
between white space.

The induction is on the nesting that is left and, inside arrays and objects, on the rounds of the
loop over their parts. Each round either ends the loop or yields one part (`readItems_round`,
`readMembers_round`).
-/

namespace Roster.Json

/-! ## What is read is spelled -/

theorem exists_blank (t : Text) : ∃ gap : Text, gap.all isSpace = true ∧ t = gap ++ skipSpace t :=
  ⟨t.takeWhile isSpace, List.all_takeWhile, List.takeWhile_append_dropWhile.symm⟩

theorem all_append {gap gap' : Text} (h : gap.all isSpace = true) (h' : gap'.all isSpace = true) :
    (gap ++ gap').all isSpace = true := by
  rw [List.all_append, h, h', Bool.and_self]

theorem passColon_ok {t rest : Text} (h : passColon t = .ok rest) :
    ∃ back : Text, back.all isSpace = true ∧ t = back ++ ':' :: rest := by
  obtain ⟨back, hback, hsplit⟩ := exists_blank t
  unfold passColon at h
  split at h
  · next after hspace =>
    obtain rfl := Except.ok.inj h
    exact ⟨back, hback, hspace ▸ hsplit⟩
  · exact nomatch h
  · exact nomatch h

/-- In front of an item stands a comma, unless it is the first. -/
theorem nextItem?_some {first : Bool} {t start : Text}
    (h : nextItem? first t = .ok (some start)) :
    ∃ back front : Text, back.all isSpace = true ∧ (first = true → back = []) ∧
      front.all isSpace = true ∧ t = back ++ lead first (front ++ start) := by
  obtain ⟨back, hback, hsplit⟩ := exists_blank t
  unfold nextItem? at h
  split at h
  · cases h
  · cases h
  · next after hspace =>
    cases first with
    | true =>
      obtain rfl := Option.some.inj (Except.ok.inj h)
      exact ⟨[], back, rfl, fun _ => rfl, hback, hsplit⟩
    | false =>
      simp only [Bool.false_eq_true, if_false] at h
      obtain ⟨front, hfront, hafter⟩ := exists_blank after
      split at h
      · cases h
      · cases h
      · obtain rfl := Option.some.inj (Except.ok.inj h)
        refine ⟨back, front, hback, fun h => absurd h Bool.false_ne_true, hfront, ?_⟩
        rw [lead, if_neg Bool.false_ne_true, ← hafter, ← hspace]
        exact hsplit
  · cases first with
    | true =>
      obtain rfl := Option.some.inj (Except.ok.inj h)
      exact ⟨[], back, rfl, fun _ => rfl, hback, hsplit⟩
    | false => cases h

theorem behind_of_skipSpace {bracket : Char} {t after : Text}
    (h : skipSpace t = bracket :: after) : behind bracket t = after := by
  rw [behind, h]
  exact if_pos rfl

theorem nextItem?_none {first : Bool} {t : Text} (h : nextItem? first t = .ok none) :
    ∃ gap : Text, gap.all isSpace = true ∧ t = gap ++ ']' :: behind ']' t := by
  obtain ⟨gap, hgap, hsplit⟩ := exists_blank t
  unfold nextItem? at h
  split at h
  · exact nomatch h
  · next after hspace =>
    exact ⟨gap, hgap, by rw [behind_of_skipSpace hspace, ← hspace, ← hsplit]⟩
  · split at h
    · exact nomatch h
    · split at h
      · exact nomatch h
      · exact nomatch h
      · exact nomatch h
  · split at h
    · exact nomatch h
    · exact nomatch h

theorem key_of_map {t key rest : Text} (h : (readString t).map some = .ok (some (key, rest))) :
    ∃ spelling, t = spelling ++ '"' :: rest ∧ SpellsText spelling key := by
  obtain ⟨found, hfound, hsome⟩ := ok_of_map h
  obtain rfl := Option.some.inj hsome
  exact readString_ok hfound

theorem map_some_ne {t : Text} (h : (readString t).map some = .ok none) : False := by
  obtain ⟨found, -, hsome⟩ := ok_of_map h
  exact nomatch hsome

theorem nextKey?_some {first : Bool} {t key rest : Text}
    (h : nextKey? first t = .ok (some (key, rest))) :
    ∃ back front spelling : Text, back.all isSpace = true ∧ (first = true → back = []) ∧
      front.all isSpace = true ∧ SpellsText spelling key ∧
      t = back ++ lead first (front ++ '"' :: (spelling ++ '"' :: rest)) := by
  obtain ⟨back, hback, hsplit⟩ := exists_blank t
  unfold nextKey? at h
  -- Only a key that is not the first one has a comma in front of it.
  split at h
  · cases h
  · cases h
  · next after hspace =>
    split at h
    · cases h
    next hfirst =>
    obtain ⟨front, hfront, hafter⟩ := exists_blank after
    split at h
    · next after' hspace' =>
      obtain ⟨spelling, rfl, hspelling⟩ := key_of_map h
      refine ⟨back, front, spelling, hback, fun h => absurd h hfirst, hfront, hspelling, ?_⟩
      rw [lead, if_neg hfirst, ← hspace', ← hafter, ← hspace]
      exact hsplit
    · cases h
    · cases h
    · cases h
  · next after hspace =>
    split at h
    · next hfirst =>
      obtain ⟨spelling, rfl, hspelling⟩ := key_of_map h
      refine ⟨[], back, spelling, rfl, fun _ => rfl, hback, hspelling, ?_⟩
      rw [lead, if_pos hfirst, List.nil_append, ← hspace]
      exact hsplit
    · cases h
  · split at h
    · cases h
    · cases h

theorem nextKey?_none {first : Bool} {t : Text} (h : nextKey? first t = .ok none) :
    ∃ gap : Text, gap.all isSpace = true ∧ t = gap ++ '}' :: behind '}' t := by
  obtain ⟨gap, hgap, hsplit⟩ := exists_blank t
  unfold nextKey? at h
  split at h
  · exact nomatch h
  · next after hspace =>
    exact ⟨gap, hgap, by rw [behind_of_skipSpace hspace, ← hspace, ← hsplit]⟩
  · split at h
    · exact nomatch h
    · split at h
      · exact (map_some_ne h).elim
      · exact nomatch h
      · exact nomatch h
      · exact nomatch h
  · split at h
    · exact (map_some_ne h).elim
    · exact nomatch h
  · split at h
    · exact nomatch h
    · exact nomatch h

/-- The reader reads only what is spelled, behind white space. -/
def ReadsSpelled (nesting : Nat) : Prop :=
  ∀ (t : Text) (v : Value) (rest : Text), readValue nesting t = .ok (v, rest) →
    ∃ front core : Text, front.all isSpace = true ∧ t = front ++ (core ++ rest) ∧
      Spells nesting core v

section Loops

variable {nesting : Nat} {clock t rest : Text}

/-- One round of the loop over items reads an item or ends. -/
theorem readItems_round (hread : ReadsSpelled nesting) {k : Char} {first : Bool} {vs : List Value}
    (h : readItems (readValue nesting) (k :: clock) first t = .ok (vs, rest)) :
    (vs = [] ∧ ∃ gap : Text, gap.all isSpace = true ∧ t = gap ++ ']' :: rest) ∨
    ∃ (back front core after : Text) (v : Value) (others : List Value),
      back.all isSpace = true ∧ (first = true → back = []) ∧ front.all isSpace = true ∧
      t = back ++ lead first (front ++ (core ++ after)) ∧ Spells nesting core v ∧
      vs = v :: others ∧ readItems (readValue nesting) clock false after = .ok (others, rest) := by
  rw [readItems] at h
  obtain ⟨next, hnext, hthen⟩ := ok_of_bind h
  cases next with
  | none =>
    obtain ⟨rfl, rfl⟩ := Prod.mk.inj (Except.ok.inj hthen)
    exact .inl ⟨rfl, nextItem?_none hnext⟩
  | some start =>
    obtain ⟨⟨v, after⟩, hvalue, hthen⟩ := ok_of_bind hthen
    obtain ⟨⟨others, rest'⟩, hothers, hlast⟩ := ok_of_bind hthen
    obtain ⟨rfl, rfl⟩ := Prod.mk.inj (Except.ok.inj hlast)
    obtain ⟨back, front, hback, hfirst, hfront, rfl⟩ := nextItem?_some hnext
    obtain ⟨front', core, hfront', rfl, hcore⟩ := hread _ _ _ hvalue
    exact .inr ⟨back, front ++ front', core, after, v, others, hback, hfirst,
      all_append hfront hfront', by rw [List.append_assoc], hcore, rfl, hothers⟩

/-- The items behind the first one are spelled. -/
theorem readItems_spelled (hread : ReadsSpelled nesting) {vs : List Value}
    (h : readItems (readValue nesting) clock false t = .ok (vs, rest)) :
    ∃ (back gap : Text) (items : List Item), back.all isSpace = true ∧ gap.all isSpace = true ∧
      (∀ i ∈ items, Spells nesting i.written.core i.value) ∧ items.map (·.value) = vs ∧
      t = back ++ behindFirst ']' (items.map Item.text) gap rest := by
  induction clock generalizing t vs with
  | nil => exact nomatch h
  | cons k clock ih =>
    rcases readItems_round hread h with ⟨rfl, gap, hgap, rfl⟩ |
      ⟨back, front, core, after, v, others, hback, -, hfront, rfl, hcore, rfl, hothers⟩
    · exact ⟨[], gap, [], rfl, hgap, List.forall_mem_nil _, rfl, rfl⟩
    · obtain ⟨back', gap, items, hback', hgap, hitems, rfl, rfl⟩ := ih hothers
      refine ⟨back, gap, ⟨v, front, core, back', hfront, hback'⟩ :: items, hback, hgap,
        List.forall_mem_cons.2 ⟨hcore, hitems⟩, rfl, ?_⟩
      simp [lead, behindFirst, Item.text, Padded.text]

theorem readItems_ok (hread : ReadsSpelled nesting) {vs : List Value}
    (h : readItems (readValue nesting) clock true t = .ok (vs, rest)) :
    ∃ core, '[' :: t = core ++ rest ∧ Spells (nesting + 1) core (.array vs) := by
  cases clock with
  | nil => exact nomatch h
  | cons k clock =>
    rcases readItems_round hread h with ⟨rfl, gap, hgap, rfl⟩ |
      ⟨back, front, core, after, v, others, -, hfirst, hfront, rfl, hcore, rfl, hothers⟩
    · exact ⟨_, (enclose_nil '[' ']' gap rest).symm, .array [] hgap (List.forall_mem_nil _)⟩
    · obtain rfl := hfirst rfl
      obtain ⟨back, gap, items, hback, hgap, hitems, rfl, rfl⟩ := readItems_spelled hread hothers
      refine ⟨_, ?_, .array (⟨v, front, core, back, hfront, hback⟩ :: items) hgap
        (List.forall_mem_cons.2 ⟨hcore, hitems⟩)⟩
      rw [List.map_cons, enclose_cons]
      simp [lead, Item.text, Padded.text]

theorem readMembers_round (hread : ReadsSpelled nesting) {k : Char} {first : Bool}
    {placed placed' : List (Text × Value)}
    (h : readMembers (readEntry (readValue nesting)) (k :: clock) first placed t =
      .ok (placed', rest)) :
    (placed' = placed ∧ ∃ gap : Text, gap.all isSpace = true ∧ t = gap ++ '}' :: rest) ∨
    ∃ (back : Text) (label : Label) (front core after : Text) (v : Value),
      back.all isSpace = true ∧ (first = true → back = []) ∧ front.all isSpace = true ∧
      t = back ++ lead first (label.text ++ (front ++ (core ++ after))) ∧ Spells nesting core v ∧
      readMembers (readEntry (readValue nesting)) clock false (Index.place label.key v placed)
        after = .ok (placed', rest) := by
  rw [readMembers] at h
  obtain ⟨next, hnext, hthen⟩ := ok_of_bind h
  cases next with
  | none =>
    obtain ⟨rfl, rfl⟩ := Prod.mk.inj (Except.ok.inj hthen)
    exact .inl ⟨rfl, nextKey?_none hnext⟩
  | some found =>
    obtain ⟨key, start⟩ := found
    obtain ⟨⟨placed'', after⟩, hentry, hothers⟩ := ok_of_bind hthen
    obtain ⟨start', hcolon, hentry⟩ := ok_of_bind hentry
    obtain ⟨⟨v, after'⟩, hvalue, hlast⟩ := ok_of_bind hentry
    obtain ⟨rfl, rfl⟩ := Prod.mk.inj (Except.ok.inj hlast)
    obtain ⟨back, front, spelling, hback, hfirst, hfront, hspelling, rfl⟩ := nextKey?_some hnext
    obtain ⟨gap, hgap, rfl⟩ := passColon_ok hcolon
    obtain ⟨front', core, hfront', rfl, hcore⟩ := hread _ _ _ hvalue
    refine .inr ⟨back, ⟨key, front, spelling, gap, hfront, hgap, hspelling⟩, front', core, _, v,
      hback, hfirst, hfront', ?_, hcore, hothers⟩
    simp [Label.text]

theorem readMembers_spelled (hread : ReadsSpelled nesting) {placed placed' : List (Text × Value)}
    (h : readMembers (readEntry (readValue nesting)) clock false placed t = .ok (placed', rest)) :
    ∃ (back gap : Text) (members : List Member), back.all isSpace = true ∧
      gap.all isSpace = true ∧ (∀ m ∈ members, Spells nesting m.written.core m.value) ∧
      (members.map Member.entry).foldl (fun rest e => Index.place e.1 e.2 rest) placed = placed' ∧
      t = back ++ behindFirst '}' (members.map Member.text) gap rest := by
  induction clock generalizing t placed with
  | nil => exact nomatch h
  | cons k clock ih =>
    rcases readMembers_round hread h with ⟨rfl, gap, hgap, rfl⟩ |
      ⟨back, label, front, core, after, v, hback, -, hfront, rfl, hcore, hothers⟩
    · exact ⟨[], gap, [], rfl, hgap, List.forall_mem_nil _, rfl, rfl⟩
    · obtain ⟨back', gap, members, hback', hgap, hmembers, rfl, rfl⟩ := ih hothers
      refine ⟨back, gap, ⟨⟨v, front, core, back', hfront, hback'⟩, label⟩ :: members, hback, hgap,
        List.forall_mem_cons.2 ⟨hcore, hmembers⟩, rfl, ?_⟩
      simp [lead, behindFirst, Member.text, Padded.text]

theorem readMembers_ok (hread : ReadsSpelled nesting) {placed : List (Text × Value)}
    (h : readMembers (readEntry (readValue nesting)) clock true [] t = .ok (placed, rest)) :
    ∃ core, '{' :: t = core ++ rest ∧ Spells (nesting + 1) core (.object placed) := by
  cases clock with
  | nil => exact nomatch h
  | cons k clock =>
    rcases readMembers_round hread h with ⟨rfl, gap, hgap, rfl⟩ |
      ⟨back, label, front, core, after, v, -, hfirst, hfront, rfl, hcore, hothers⟩
    · exact ⟨_, (enclose_nil '{' '}' gap rest).symm,
        .object [] hgap (List.forall_mem_nil _)⟩
    · obtain rfl := hfirst rfl
      obtain ⟨back, gap, members, hback, hgap, hmembers, rfl, rfl⟩ :=
        readMembers_spelled hread hothers
      have hspells := Spells.object
        (⟨⟨v, front, core, back, hfront, hback⟩, label⟩ :: members) hgap
        (List.forall_mem_cons.2 ⟨hcore, hmembers⟩)
      rw [Index.ofList, Index.entries_foldl_insert] at hspells
      refine ⟨_, ?_, hspells⟩
      rw [List.map_cons, enclose_cons]
      simp [lead, Member.text, Padded.text]

end Loops

/-- **What is read is spelled**, behind white space. -/
theorem readValue_ok (nesting : Nat) : ReadsSpelled nesting := by
  induction nesting with
  | zero =>
    intro t v rest h
    obtain ⟨front, hfront, hsplit⟩ := exists_blank t
    rw [readValue] at h
    split at h
    · cases h
    · cases h
    · cases h
    · obtain ⟨core, hcore, hscalar⟩ := readScalar_ok h
      exact ⟨front, core, hfront, hcore ▸ hsplit, .scalar hscalar⟩
  | succ nesting ih =>
    intro t v rest h
    obtain ⟨front, hfront, hsplit⟩ := exists_blank t
    rw [readValue] at h
    split at h
    · cases h
    · next after hspace =>
      obtain ⟨⟨vs, rest'⟩, hitems, hlast⟩ := ok_of_bind h
      obtain ⟨rfl, rfl⟩ := Prod.mk.inj (Except.ok.inj hlast)
      obtain ⟨core, hcore, hspells⟩ := readItems_ok ih hitems
      exact ⟨front, core, hfront, by rw [← hcore, ← hspace]; exact hsplit, hspells⟩
    · next after hspace =>
      obtain ⟨⟨placed, rest'⟩, hmembers, hlast⟩ := ok_of_bind h
      obtain ⟨rfl, rfl⟩ := Prod.mk.inj (Except.ok.inj hlast)
      obtain ⟨core, hcore, hspells⟩ := readMembers_ok ih hmembers
      exact ⟨front, core, hfront, by rw [← hcore, ← hspace]; exact hsplit, hspells⟩
    · obtain ⟨core, hcore, hscalar⟩ := readScalar_ok h
      exact ⟨front, core, hfront, hcore ▸ hsplit, .scalar hscalar⟩

theorem spells_of_readValue {nesting : Nat} {t : Text} {v : Value} (hblank : skipSpace t = t)
    (h : readValue nesting t = .ok (v, [])) : Spells nesting t v := by
  obtain ⟨front, core, hfront, rfl, hspells⟩ := readValue_ok _ _ _ _ h
  rw [skipSpace_append hfront, List.append_nil] at hblank
  have hnil : front = [] := by
    have hlength := congrArg List.length hblank
    have hle : (skipSpace core).length ≤ core.length :=
      (List.dropWhile_suffix isSpace).length_le
    rw [List.length_append] at hlength
    exact List.length_eq_zero_iff.1 (by omega)
  rw [hnil, List.append_nil]
  exact hspells

/-! ## Documents -/

/-- The document is a text between white space that spells the value. -/
def Holds (document : Text) (v : Value) : Prop :=
  ∃ p : Padded, document = p.text ∧ Spells maxNesting p.core v

theorem skipSpace_eq_nil_iff {t : Text} : skipSpace t = [] ↔ t.all isSpace = true := by
  rw [skipSpace, List.dropWhile_eq_nil_iff, List.all_eq_true]

theorem finish_eq_ok_iff {α : Type} {outcome : Except Fault (α × Text)} {x : α} :
    finish outcome = .ok x ↔ ∃ rest, outcome = .ok (x, rest) ∧ rest.all isSpace = true := by
  constructor
  · intro h
    obtain ⟨⟨y, rest⟩, houtcome, hthen⟩ := ok_of_bind h
    dsimp only at hthen
    split at hthen
    · next hspace =>
      obtain rfl := Except.ok.inj hthen
      exact ⟨rest, houtcome, skipSpace_eq_nil_iff.1 hspace⟩
    · exact nomatch hthen
  · rintro ⟨rest, rfl, hrest⟩
    simp only [finish, bind, Except.bind, skipSpace_eq_nil_iff.2 hrest]

theorem readDocument_eq_ok_iff {α : Type} {read : Reader α} {t : Text} {x : α} :
    readDocument read t = .ok x ↔ ∃ rest, read t = .ok (x, rest) ∧ rest.all isSpace = true := by
  rw [← finish_eq_ok_iff, readDocument]
  cases finish (read t) with
  | error f =>
    constructor
    · intro h
      cases h
    · intro h
      cases h
  | ok y =>
    constructor
    · exact fun h => congrArg _ (Except.ok.inj h)
    · exact fun h => congrArg _ (Except.ok.inj h)

/-- **A document is read as a value** exactly if it spells the value between white space. -/
theorem parse_eq_ok_iff {t : Text} {v : Value} : parse t = .ok v ↔ Holds t v := by
  rw [parse, readDocument_eq_ok_iff]
  constructor
  · rintro ⟨back, hread, hback⟩
    obtain ⟨front, core, hfront, rfl, hspells⟩ := readValue_ok _ _ _ _ hread
    exact ⟨⟨front, core, back, hfront, hback⟩, rfl, hspells⟩
  · rintro ⟨p, rfl, hspells⟩
    have hdelimited := delimited_nil.blank_append p.blank_back
    rw [List.append_nil] at hdelimited
    refine ⟨p.back, ?_, p.blank_back⟩
    rw [Padded.text, readValue_blank p.blank_front]
    exact hspells.readsFrom.reads _ hdelimited

end Roster.Json
