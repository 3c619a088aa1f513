import Roster.Proofs.Index
import Roster.Proofs.Json.Scalars

/-!
# The texts that are read as values

A value can be written in many ways: with any white space between its pieces, with any escapes, with
the members of an object in any order and with keys that come more than once. `Spells` says which
texts are read as which values. It has one rule for scalars, one for arrays and one for objects; the
reader does not occur in it but for the value of a number.

* `Padded`, `Item` and `Member` are the parts of arrays and objects as they are written.

**Theorem (`readMembers_enclose`).** If a loop takes the members of an object one by one (`Steps`),
so does reading the object.

**Theorem (`Spells.readsFrom`).** A text that spells a value is read as the value, whatever
delimiter follows.

The proof is by induction on the derivation. Inside arrays and objects the rounds of the loop match
the parts that are written behind the first one.
-/

namespace Roster.Json

/-! ## The parts of arrays and objects -/

/-- A text with white space around it. -/
structure Padded where
  front : Text
  core : Text
  back : Text
  blank_front : front.all isSpace = true
  blank_back : back.all isSpace = true

/-- The whole text. -/
def Padded.text (p : Padded) : Text := p.front ++ (p.core ++ p.back)

/-- A key with its quotes and its colon, and with white space in front of either. -/
structure Label where
  key : Text
  front : Text
  spelling : Text
  back : Text
  blank_front : front.all isSpace = true
  blank_back : back.all isSpace = true
  spells : SpellsText spelling key

/-- The whole text. -/
def Label.text (l : Label) : Text := l.front ++ '"' :: (l.spelling ++ '"' :: (l.back ++ [':']))

/-- An item of an array: a value and how it is written. -/
structure Item where
  value : Value
  written : Padded

/-- A member of an object: a labelled value. -/
structure Member extends Item where
  label : Label

def Item.text (i : Item) : Text := i.written.text

def Member.text (m : Member) : Text := m.label.text ++ m.written.text

/-- The key and the value. -/
def Member.entry (m : Member) : Text × Value := (m.label.key, m.value)

/-- Parts between brackets, with commas between them and white space behind the last. -/
def enclose (opening closing : Char) (parts : List Text) (gap : Text) : Text :=
  opening :: (Text.joinWith [','] parts ++ (gap ++ [closing]))

/-- The text is read as the value, in which so many arrays and objects may be nested. Of members
with equal keys the last counts. -/
inductive Spells : (nesting : Nat) → Text → Value → Prop where
  | scalar {nesting : Nat} {t : Text} {v : Value} (spells : SpellsScalar t v) : Spells nesting t v
  | array {nesting : Nat} (items : List Item) {gap : Text} (blank : gap.all isSpace = true)
      (spells : ∀ i ∈ items, Spells nesting i.written.core i.value) :
      Spells (nesting + 1) (enclose '[' ']' (items.map Item.text) gap)
        (.array (items.map (·.value)))
  | object {nesting : Nat} (members : List Member) {gap : Text} (blank : gap.all isSpace = true)
      (spells : ∀ m ∈ members, Spells nesting m.written.core m.value) :
      Spells (nesting + 1) (enclose '{' '}' (members.map Member.text) gap)
        (.object (Index.ofList (members.map Member.entry)).entries)

/-- The text is an object with those members, in their order and with those that come again. -/
def SpellsMembers (nesting : Nat) (t : Text) (members : List Member) : Prop :=
  (∀ m ∈ members, Spells nesting m.written.core m.value) ∧
    ∃ gap : Text, gap.all isSpace = true ∧ t = enclose '{' '}' (members.map Member.text) gap

/-- An object is read with the last of the members under each key. -/
theorem spells_object_iff {nesting : Nat} {t : Text} {entries : List (Text × Value)} :
    Spells (nesting + 1) t (.object entries) ↔ ∃ members, SpellsMembers nesting t members ∧
      entries = (Index.ofList (members.map Member.entry)).entries := by
  constructor
  · intro h
    cases h with
    | scalar spells => exact nomatch spells
    | object members blank spells => exact ⟨members, ⟨spells, _, blank, rfl⟩, rfl⟩
  · rintro ⟨members, ⟨hspells, gap, hgap, rfl⟩, rfl⟩
    exact .object members hgap hspells

/-! ## White space -/

section Blank

variable {gap : Text} (hgap : gap.all isSpace = true)

include hgap

theorem Delimited.blank_append {t : Text} (h : Delimited t) : Delimited (gap ++ t) := by
  cases gap with
  | nil => exact h
  | cons c gap =>
    have hc : isSpace c = true := List.all_eq_true.1 hgap c List.mem_cons_self
    exact delimited_cons (by simp [isDelimiter, hc]) _

theorem nextItem?_blank (first : Bool) (t : Text) :
    nextItem? first (gap ++ t) = nextItem? first t := by
  rw [nextItem?, skipSpace_append hgap, nextItem?]

theorem nextKey?_blank (first : Bool) (t : Text) :
    nextKey? first (gap ++ t) = nextKey? first t := by
  rw [nextKey?, skipSpace_append hgap, nextKey?]

theorem behind_blank (bracket : Char) (t : Text) :
    behind bracket (gap ++ t) = behind bracket t := by
  rw [behind, skipSpace_append hgap, behind]

theorem passColon_blank (t : Text) : passColon (gap ++ ':' :: t) = .ok t := by
  have hspace : skipSpace (gap ++ ':' :: t) = ':' :: t := skipSpace_gap hgap rfl (by decide)
  simp only [passColon, hspace]

theorem readValue_blank (nesting : Nat) (t : Text) :
    readValue nesting (gap ++ t) = readValue nesting t := by
  rw [readValue, skipSpace_append hgap, readValue]

/-- White space behind an item does not matter for the others. -/
theorem readItems_blank {α : Type} {item : Reader α} {clock t rest : Text} {first : Bool}
    {xs : List α} (h : readItems item clock first t = .ok (xs, rest)) :
    readItems item clock first (gap ++ t) = .ok (xs, rest) := by
  cases clock with
  | nil => exact nomatch h
  | cons k clock => rwa [readItems, nextItem?_blank hgap, behind_blank hgap]

theorem readMembers_blank {σ : Type} {member : Text → σ → Reader σ} {clock t rest : Text}
    {first : Bool} {s s' : σ} (h : readMembers member clock first s t = .ok (s', rest)) :
    readMembers member clock first s (gap ++ t) = .ok (s', rest) := by
  cases clock with
  | nil => exact nomatch h
  | cons k clock => rwa [readMembers, nextKey?_blank hgap, behind_blank hgap]

end Blank

/-! ## What stands behind the first part -/

/-- The parts behind the first one, the closing bracket and the text behind it. -/
def behindFirst (closing : Char) (parts : List Text) (gap rest : Text) : Text :=
  parts.flatMap (',' :: ·) ++ (gap ++ closing :: rest)

theorem joinWith_cons (part : Text) (parts : List Text) :
    Text.joinWith [','] (part :: parts) = part ++ parts.flatMap (',' :: ·) := by
  induction parts generalizing part with
  | nil => simp [Text.joinWith]
  | cons next parts ih =>
    rw [Text.joinWith, ih, List.flatMap_cons, List.append_assoc, List.singleton_append,
      List.cons_append]

theorem enclose_nil (opening closing : Char) (gap rest : Text) :
    enclose opening closing [] gap ++ rest = opening :: (gap ++ closing :: rest) := by
  simp [enclose, Text.joinWith]

theorem enclose_cons (opening closing : Char) (part : Text) (parts : List Text)
    (gap rest : Text) :
    enclose opening closing (part :: parts) gap ++ rest =
      opening :: (part ++ behindFirst closing parts gap rest) := by
  simp [enclose, joinWith_cons, behindFirst]

theorem behindFirst_cons (closing : Char) (part : Text) (parts : List Text) (gap rest : Text) :
    behindFirst closing (part :: parts) gap rest =
      ',' :: (part ++ behindFirst closing parts gap rest) := by
  simp [behindFirst]

theorem delimited_behindFirst {closing : Char} (hclosing : isDelimiter closing = true)
    (parts : List Text) {gap : Text} (hgap : gap.all isSpace = true) (rest : Text) :
    Delimited (behindFirst closing parts gap rest) := by
  cases parts with
  | nil => exact (delimited_cons hclosing rest).blank_append hgap
  | cons part parts =>
    rw [behindFirst_cons]
    exact delimited_cons (by decide) _

theorem length_lt_behindFirst (closing : Char) (parts : List Text) (gap rest : Text) :
    parts.length < (behindFirst closing parts gap rest).length := by
  induction parts with
  | nil =>
    simp only [behindFirst, List.flatMap_nil, List.nil_append, List.length_append, List.length_cons,
      List.length_nil]
    omega
  | cons part parts ih =>
    rw [behindFirst_cons]
    simp only [List.length_cons, List.length_append]
    omega

/-- The text behind an opening bracket has a character for each round of the loop over its parts. -/
theorem length_lt_parts (part : Text) (closing : Char) (parts : List Text) (gap rest : Text) :
    parts.length < (part ++ behindFirst closing parts gap rest).length := by
  have hlength := length_lt_behindFirst closing parts gap rest
  rw [List.length_append]
  omega

/-! ## What is spelled is read -/

/-- The text opens a value and is read as `v`, whatever delimiter follows. -/
structure ReadsFrom (nesting : Nat) (t : Text) (v : Value) : Prop where
  opens : ∃ c u, t = c :: u ∧ opensValue c = true
  reads : ∀ rest, Delimited rest → readValue nesting (t ++ rest) = .ok (v, rest)

theorem SpellsScalar.readsFrom {t : Text} {v : Value} (h : SpellsScalar t v) (nesting : Nat) :
    ReadsFrom nesting t v := by
  obtain ⟨c, u, rfl, hc, hbracket, hbrace⟩ := h.opens
  refine ⟨⟨c, u, rfl, hc⟩, fun rest hrest => ?_⟩
  have hread := h.readScalar hrest
  rw [List.cons_append] at hread ⊢
  have hspace := skipSpace_cons (isSpace_of_opensValue hc) (u ++ rest)
  simp [Json.readValue, hspace, hbracket, hbrace, hread]

section Items

variable {nesting : Nat} {clock after rest gap : Text} {vs : List Value}

/-- One round reads one item, and the white space behind it is left to the next round. -/
theorem readItems_item {i : Item} (h : ReadsFrom nesting i.written.core i.value)
    (hafter : Delimited after)
    (hothers : readItems (readValue nesting) clock false after = .ok (vs, rest)) (k : Char)
    (first : Bool) :
    readItems (readValue nesting) (k :: clock) first
      (lead first i.written.front ++ (i.written.core ++ (i.written.back ++ after))) =
        .ok (i.value :: vs, rest) := by
  obtain ⟨c, u, hcore, hc⟩ := h.opens
  have hvalue := h.reads _ (hafter.blank_append i.written.blank_back)
  have hnext := readItems_blank i.written.blank_back hothers
  rw [hcore, List.cons_append] at hvalue ⊢
  rw [readItems, nextItem?_lead i.written.blank_front hc]
  simp only [bind, Except.bind, hvalue, hnext]

/-- The items behind the first one, as long as there is a round for each and one for the bracket. -/
theorem readItems_behindFirst {items : List Item}
    (h : ∀ i ∈ items, ReadsFrom nesting i.written.core i.value)
    (hgap : gap.all isSpace = true) (hclock : items.length < clock.length) (rest : Text) :
    readItems (readValue nesting) clock false (behindFirst ']' (items.map Item.text) gap rest) =
      .ok (items.map (·.value), rest) := by
  induction items generalizing clock with
  | nil =>
    cases clock with
    | nil => exact absurd hclock (Nat.not_lt_zero _)
    | cons k clock =>
      have hbehind := behind_end hgap (by decide : isSpace ']' = false) rest
      simp only [behindFirst, List.map_nil, List.flatMap_nil, List.nil_append, readItems,
        nextItem?_end hgap, bind, Except.bind, hbehind]
  | cons i items ih =>
    cases clock with
    | nil => exact absurd hclock (Nat.not_lt_zero _)
    | cons k clock =>
      have hothers := ih (fun i' hi' => h i' (List.mem_cons_of_mem i hi'))
        (Nat.lt_of_succ_lt_succ hclock)
      have hdelimited : Delimited (behindFirst ']' (items.map Item.text) gap rest) :=
        delimited_behindFirst (by decide) _ hgap rest
      have hitem := readItems_item (h i List.mem_cons_self) hdelimited hothers k false
      rw [List.map_cons, List.map_cons, behindFirst_cons, Item.text, Padded.text]
      simpa [lead] using hitem

theorem readItems_enclose {items : List Item}
    (h : ∀ i ∈ items, ReadsFrom nesting i.written.core i.value)
    (hgap : gap.all isSpace = true) (rest : Text) :
    ∃ t, enclose '[' ']' (items.map Item.text) gap ++ rest = '[' :: t ∧
      readItems (readValue nesting) ('[' :: t) true t = .ok (items.map (·.value), rest) := by
  cases items with
  | nil =>
    refine ⟨gap ++ ']' :: rest, enclose_nil _ _ gap rest, ?_⟩
    have hbehind := behind_end hgap (by decide : isSpace ']' = false) rest
    simp only [readItems, nextItem?_end hgap, bind, Except.bind, hbehind, List.map_nil]
  | cons i items =>
    refine ⟨i.text ++ behindFirst ']' (items.map Item.text) gap rest,
      enclose_cons _ _ _ _ gap rest, ?_⟩
    have hclock := length_lt_parts i.text ']' (items.map Item.text) gap rest
    rw [List.length_map] at hclock
    have hothers := readItems_behindFirst (fun i' hi' => h i' (List.mem_cons_of_mem i hi'))
      hgap hclock rest
    have hdelimited : Delimited (behindFirst ']' (items.map Item.text) gap rest) :=
      delimited_behindFirst (by decide) _ hgap rest
    have hitem := readItems_item (h i List.mem_cons_self) hdelimited hothers '[' true
    simpa [lead, Item.text, Padded.text] using hitem

end Items

/-! ### Members -/

section Members

variable {σ : Type} {member : Text → σ → Reader σ} {s s' s'' : σ} {clock after rest gap : Text}

/-- The loop over the members takes the state `s` to the state `s'`. -/
inductive Steps (member : Text → σ → Reader σ) : σ → List Member → σ → Prop where
  | nil {s : σ} : Steps member s [] s
  | cons {s s' s'' : σ} {m : Member} {ms : List Member}
      (head : ∀ rest, Delimited rest → member m.label.key s
        (m.label.back ++ ':' :: (m.written.front ++ (m.written.core ++ rest))) = .ok (s', rest))
      (tail : Steps member s' ms s'') : Steps member s (m :: ms) s''

theorem nextKey?_label (l : Label) (first : Bool) (t : Text) :
    nextKey? first (lead first l.front ++ '"' :: (l.spelling ++ '"' :: t)) =
      .ok (some (l.key, t)) := by
  have hblank : skipSpace (l.front ++ '"' :: (l.spelling ++ '"' :: t)) =
      '"' :: (l.spelling ++ '"' :: t) := skipSpace_gap l.blank_front rfl (by decide)
  cases first with
  | true =>
    rw [nextKey?, lead, if_pos rfl, hblank]
    simp [l.spells.readString, Except.map]
  | false =>
    rw [nextKey?, lead, if_neg Bool.false_ne_true, List.cons_append,
      skipSpace_cons (by decide)]
    simp [hblank, l.spells.readString, Except.map]

theorem readMembers_member {m : Member}
    (h : ∀ rest, Delimited rest → member m.label.key s
      (m.label.back ++ ':' :: (m.written.front ++ (m.written.core ++ rest))) = .ok (s', rest))
    (hafter : Delimited after)
    (hothers : readMembers member clock false s' after = .ok (s'', rest)) (k : Char)
    (first : Bool) :
    readMembers member (k :: clock) first s
      (lead first m.label.front ++ '"' :: (m.label.spelling ++ '"' :: (m.label.back ++ ':' ::
        (m.written.front ++ (m.written.core ++ (m.written.back ++ after)))))) =
        .ok (s'', rest) := by
  have hmember := h _ (hafter.blank_append m.written.blank_back)
  have hnext := readMembers_blank m.written.blank_back hothers
  rw [readMembers, nextKey?_label]
  simp only [bind, Except.bind, hmember, hnext]

theorem readMembers_behindFirst {members : List Member} (h : Steps member s members s')
    (hgap : gap.all isSpace = true) (hclock : members.length < clock.length) (rest : Text) :
    readMembers member clock false s (behindFirst '}' (members.map Member.text) gap rest) =
      .ok (s', rest) := by
  induction h generalizing clock with
  | nil =>
    cases clock with
    | nil => exact absurd hclock (Nat.not_lt_zero _)
    | cons k clock =>
      have hbehind := behind_end hgap (by decide : isSpace '}' = false) rest
      simp only [behindFirst, List.map_nil, List.flatMap_nil, List.nil_append, readMembers,
        nextKey?_end hgap, bind, Except.bind, hbehind]
  | @cons s s' s'' m ms head tail ih =>
    cases clock with
    | nil => exact absurd hclock (Nat.not_lt_zero _)
    | cons k clock =>
      have hothers := ih (Nat.lt_of_succ_lt_succ hclock)
      have hdelimited : Delimited (behindFirst '}' (ms.map Member.text) gap rest) :=
        delimited_behindFirst (by decide) _ hgap rest
      have hmember := readMembers_member head hdelimited hothers k false
      rw [List.map_cons, behindFirst_cons]
      simpa [lead, Member.text, Label.text, Padded.text] using hmember

/-- **The members of an object are read** if the loop takes them one by one. -/
theorem readMembers_enclose {members : List Member} (h : Steps member s members s')
    (hgap : gap.all isSpace = true) (rest : Text) :
    ∃ t, enclose '{' '}' (members.map Member.text) gap ++ rest = '{' :: t ∧
      readMembers member ('{' :: t) true s t = .ok (s', rest) := by
  cases h with
  | nil =>
    refine ⟨gap ++ '}' :: rest, enclose_nil _ _ gap rest, ?_⟩
    have hbehind := behind_end hgap (by decide : isSpace '}' = false) rest
    simp only [readMembers, nextKey?_end hgap, bind, Except.bind, hbehind]
  | @cons _ s' _ m ms head tail =>
    refine ⟨m.text ++ behindFirst '}' (ms.map Member.text) gap rest,
      enclose_cons _ _ _ _ gap rest, ?_⟩
    have hclock := length_lt_parts m.text '}' (ms.map Member.text) gap rest
    rw [List.length_map] at hclock
    have hothers := readMembers_behindFirst tail hgap hclock rest
    have hdelimited : Delimited (behindFirst '}' (ms.map Member.text) gap rest) :=
      delimited_behindFirst (by decide) _ hgap rest
    have hmember := readMembers_member head hdelimited hothers '{' true
    simpa [lead, Member.text, Label.text, Padded.text] using hmember

theorem readEntry_value {nesting : Nat} {i : Item} (h : ReadsFrom nesting i.written.core i.value)
    {back : Text} (hback : back.all isSpace = true) (hrest : Delimited rest) (key : Text)
    (placed : List (Text × Value)) :
    readEntry (readValue nesting) key placed
      (back ++ ':' :: (i.written.front ++ (i.written.core ++ rest))) =
        .ok (Index.place key i.value placed, rest) := by
  have hvalue := h.reads rest hrest
  rw [readEntry, passColon_blank hback]
  simp only [bind, Except.bind, readValue_blank i.written.blank_front, hvalue]

theorem steps_readEntry {nesting : Nat} {members : List Member}
    (h : ∀ m ∈ members, ReadsFrom nesting m.written.core m.value) (placed : List (Text × Value)) :
    Steps (readEntry (readValue nesting)) placed members
      ((members.map Member.entry).foldl (fun rest e => Index.place e.1 e.2 rest) placed) := by
  induction members generalizing placed with
  | nil => exact .nil
  | cons m members ih =>
    have hm := h m List.mem_cons_self
    refine .cons (fun rest hrest => ?_) (ih (fun m' hm' => h m' (List.mem_cons_of_mem m hm')) _)
    exact readEntry_value (i := m.toItem) hm m.label.blank_back hrest m.label.key placed

/-- The entries of an object, of which the last under each key counts. -/
theorem readMembers_readEntry_enclose {nesting : Nat} {members : List Member}
    (h : ∀ m ∈ members, ReadsFrom nesting m.written.core m.value)
    (hgap : gap.all isSpace = true) (rest : Text) :
    ∃ t, enclose '{' '}' (members.map Member.text) gap ++ rest = '{' :: t ∧
      readMembers (readEntry (readValue nesting)) ('{' :: t) true [] t =
        .ok ((Index.ofList (members.map Member.entry)).entries, rest) := by
  rw [Index.ofList, Index.entries_foldl_insert, Index.entries_empty]
  exact readMembers_enclose (steps_readEntry h []) hgap rest

end Members

/-- What is spelled is read, whatever delimiter follows. -/
theorem Spells.readsFrom {nesting : Nat} {t : Text} {v : Value} (h : Spells nesting t v) :
    ReadsFrom nesting t v := by
  induction h with
  | scalar spells => exact spells.readsFrom _
  | @array nesting items gap blank _ ih =>
    refine ⟨⟨'[', _, rfl, rfl⟩, fun rest _ => ?_⟩
    obtain ⟨t, ht, hread⟩ := readItems_enclose ih blank rest
    rw [ht]
    have hspace := skipSpace_cons (by decide : isSpace '[' = false) t
    simp only [Json.readValue, hspace, bind, Except.bind, hread]
  | @object nesting members gap blank _ ih =>
    refine ⟨⟨'{', _, rfl, rfl⟩, fun rest _ => ?_⟩
    obtain ⟨t, ht, hread⟩ := readMembers_readEntry_enclose ih blank rest
    rw [ht]
    have hspace := skipSpace_cons (by decide : isSpace '{' = false) t
    simp only [Json.readValue, hspace, bind, Except.bind, hread]

end Roster.Json
