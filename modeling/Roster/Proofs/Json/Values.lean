import Roster.Proofs.Index
import Roster.Proofs.Json.Layout

/-!
# Values are read back

Each reader of values reads the written form of the values that it is for. The readers of arrays and
objects do so if the readers of their parts do.

* `Value.Within` holds of the values that can be read back: whole numbers that fit a machine word,
  members in the order of their keys, and a bound on how deep arrays and objects are nested.

**Theorem (`parse_ascii`).** The ASCII form of a value that is nested at most 127 deep is read back
as the value.

The bound on the nesting goes down with the nesting that `readValue` still allows, so the induction
is on the derivation of `Value.Within`.
-/

namespace Roster.Json

variable {α : Type}

/-- The numbers of the value are whole and fit a machine word, the members of its objects ascend by
key, and arrays and objects are nested in it at most so deep. -/
inductive Value.Within : (nesting : Nat) → Value → Prop where
  | null {nesting : Nat} : Within nesting .null
  | bool {nesting : Nat} (b : Bool) : Within nesting (.bool b)
  | whole {nesting : Nat} {n : Int} (low : -(maxBelowZero : Int) ≤ n) (high : n ≤ maxWhole) :
    Within nesting (.number (.whole n))
  | text {nesting : Nat} (t : Text) : Within nesting (.text t)
  | array {nesting : Nat} {items : List Value} (items_within : ∀ v ∈ items, Within nesting v) :
    Within (nesting + 1) (.array items)
  | object {nesting : Nat} {members : List (Text × Value)}
    (ascending : members.Pairwise fun a b => a.1 < b.1)
    (members_within : ∀ e ∈ members, Within nesting e.2) :
    Within (nesting + 1) (.object members)

/-! ## Typed values -/

theorem asciiAt_text (t : Text) (level : Nat) (rest : Text) :
    (Value.text t).asciiAt level ++ rest = '"' :: (t.flatMap asciiChar ++ '"' :: rest) := by
  rw [Value.asciiAt, Value.write, quote_append]

theorem asciiAt_text_opens (t : Text) (level : Nat) :
    ∃ rest, (Value.text t).asciiAt level = '"' :: rest := by
  have htext := asciiAt_text t level []
  rw [List.append_nil] at htext
  exact ⟨_, htext⟩

theorem readsAs_readText (expected t : Text) : ReadsAs (readText expected) (.text t) t where
  opens level := by
    obtain ⟨rest, htext⟩ := asciiAt_text_opens t level
    exact ⟨'"', rest, htext, rfl⟩
  reads level gap rest hgap _ := by
    have hblank := skipSpace_gap hgap (asciiAt_text t level rest) (by decide)
    simp [readText, hblank, readString_asciiChar]

theorem readsAs_readList {item : Reader α} {vs : List Value} {xs : List α}
    (h : List.Forall₂ (ReadsAs item) vs xs) : ReadsAs (readList item) (.array vs) xs where
  opens level := by
    obtain ⟨t, ht, -⟩ := readItems_array h level []
    rw [List.append_nil] at ht
    exact ⟨'[', t, ht, rfl⟩
  reads level gap rest hgap _ := by
    obtain ⟨t, ht, hread⟩ := readItems_array h level rest
    have hblank := skipSpace_gap hgap ht (by decide)
    simp [readList, hblank, hread]

theorem readEntry_member {value : Reader α} {v : Value} {x : α} (h : ReadsAs value v x)
    (key : Text) (placed : List (Text × α)) (level : Nat) {rest : Text} (hrest : Ends rest) :
    readEntry value key placed (": ".toList ++ (v.asciiAt level ++ rest)) =
      .ok (Index.place key x placed, rest) := by
  have hvalue := h.reads level [' '] rest rfl hrest
  rw [List.singleton_append] at hvalue
  rw [readEntry, passColon_colon]
  simp only [bind, Except.bind, hvalue]

/-- The members of an object and the entries as which they are read. -/
def ReadsAsEntry (value : Reader α) (member : Text × Value) (entry : Text × α) : Prop :=
  member.1 = entry.1 ∧ ReadsAs value member.2 entry.2

theorem gathers_readEntry {value : Reader α} {l : List (Text × Value)} {es : List (Text × α)}
    (h : List.Forall₂ (ReadsAsEntry value) l es) (placed : List (Text × α)) :
    Gathers (readEntry value) placed l
      (es.foldl (fun rest e => Index.place e.1 e.2 rest) placed) := by
  induction h generalizing placed with
  | nil => exact .nil
  | @cons member e l es hmember _ ih =>
    obtain ⟨key, v⟩ := member
    obtain ⟨rfl, hv⟩ := hmember
    exact .cons (fun level rest => readEntry_member hv _ placed level) (ih _)

/-- The members of an object are read as entries if their keys ascend. -/
theorem readMembers_readEntry {value : Reader α} {l : List (Text × Value)} {es : List (Text × α)}
    (h : List.Forall₂ (ReadsAsEntry value) l es)
    (hascending : es.Pairwise fun a b => a.1 < b.1) (level : Nat) (rest : Text) :
    ∃ t, (Value.object l).asciiAt level ++ rest = '{' :: t ∧
      readMembers (readEntry value) ('{' :: t) true [] t = .ok (es, rest) := by
  have hgathers := gathers_readEntry h []
  rw [Index.foldl_place_of_ascending (by simpa using hascending), List.nil_append] at hgathers
  exact readMembers_object hgathers level rest

/-- An object is read as entries if its values are read and its keys ascend. -/
theorem readsAs_readIndex {value : Reader α} {l : List (Text × Value)} {es : List (Text × α)}
    (h : List.Forall₂ (ReadsAsEntry value) l es)
    (hascending : es.Pairwise fun a b => a.1 < b.1) :
    ReadsAs (readIndex value) (.object l) es where
  opens level := by
    obtain ⟨t, ht, -⟩ := readMembers_readEntry h hascending level []
    rw [List.append_nil] at ht
    exact ⟨'{', t, ht, rfl⟩
  reads level gap rest hgap _ := by
    obtain ⟨t, ht, hread⟩ := readMembers_readEntry h hascending level rest
    have hblank := skipSpace_gap hgap ht (by decide)
    simp [readIndex, hblank, hread]

/-! ## Any value -/

/-- A value that is neither an array nor an object is read if `readScalar` reads it. -/
theorem readsAs_readValue_scalar {v : Value} {nesting : Nat}
    (hopens : ∀ level, ∃ c t, v.asciiAt level = c :: t ∧ opensValue c = true ∧ c ≠ '[' ∧ c ≠ '{')
    (hreads : ∀ level rest, Ends rest → readScalar (v.asciiAt level ++ rest) = .ok (v, rest)) :
    ReadsAs (readValue nesting) v v where
  opens level := by
    obtain ⟨c, t, ht, hc, -, -⟩ := hopens level
    exact ⟨c, t, ht, hc⟩
  reads level gap rest hgap hrest := by
    obtain ⟨c, t, ht, hc, hbracket, hbrace⟩ := hopens level
    have hscalar := hreads level rest hrest
    have htext : v.asciiAt level ++ rest = c :: (t ++ rest) := by rw [ht, List.cons_append]
    have hblank := skipSpace_gap hgap htext (isSpace_of_opensValue hc)
    rw [htext] at hscalar
    simp [readValue, hblank, hbracket, hbrace, hscalar]

theorem readsAs_readValue_array {nesting : Nat} {vs : List Value}
    (h : ∀ v ∈ vs, ReadsAs (readValue nesting) v v) :
    ReadsAs (readValue (nesting + 1)) (.array vs) (.array vs) where
  opens := (readsAs_readList (List.forall₂_same.2 h)).opens
  reads level gap rest hgap _ := by
    obtain ⟨t, ht, hread⟩ := readItems_array (List.forall₂_same.2 h) level rest
    have hblank := skipSpace_gap hgap ht (by decide)
    simp only [readValue, hblank, bind, Except.bind, hread]

theorem readsAs_readValue_object {nesting : Nat} {members : List (Text × Value)}
    (hascending : members.Pairwise fun a b => a.1 < b.1)
    (h : ∀ e ∈ members, ReadsAs (readValue nesting) e.2 e.2) :
    ReadsAs (readValue (nesting + 1)) (.object members) (.object members) := by
  have hentries : List.Forall₂ (ReadsAsEntry (readValue nesting)) members members :=
    List.forall₂_same.2 fun e he => ⟨rfl, h e he⟩
  refine ⟨(readsAs_readIndex hentries hascending).opens, fun level gap rest hgap _ => ?_⟩
  obtain ⟨t, ht, hread⟩ := readMembers_readEntry hentries hascending level rest
  have hblank := skipSpace_gap hgap ht (by decide)
  simp only [readValue, hblank, bind, Except.bind, hread]

theorem readsAs_readValue_whole {nesting : Nat} {n : Int} (hlow : -(maxBelowZero : Int) ≤ n)
    (hhigh : n ≤ maxWhole) :
    ReadsAs (readValue nesting) (.number (.whole n)) (.number (.whole n)) := by
  refine readsAs_readValue_scalar (fun level => ?_) fun level rest hrest =>
    readScalar_whole hlow hhigh hrest
  cases n with
  | ofNat n =>
    cases hdigits : Text.ofNat n with
    | nil => exact absurd hdigits (ofNat_ne_nil n)
    | cons c digits =>
      have hc : Text.isDigit c = true :=
        isDigit_of_mem_ofNat (n := n) (hdigits ▸ List.mem_cons_self)
      refine ⟨c, digits, hdigits, by simp [opensValue, hc], ?_, ?_⟩
      · rintro rfl
        exact nomatch hc
      · rintro rfl
        exact nomatch hc
  | negSucc n => exact ⟨'-', Text.ofNat (n + 1), rfl, rfl, by decide, by decide⟩

/-- **A value is read back** if it is nested no deeper than the reader allows. -/
theorem readsAs_readValue {nesting : Nat} {v : Value} (h : v.Within nesting) :
    ReadsAs (readValue nesting) v v := by
  induction h with
  | null =>
    exact readsAs_readValue_scalar (fun _ => ⟨'n', _, rfl, rfl, by decide, by decide⟩)
      fun _ _ _ => rfl
  | bool b =>
    cases b with
    | true =>
      exact readsAs_readValue_scalar (fun _ => ⟨'t', _, rfl, rfl, by decide, by decide⟩)
        fun _ _ _ => rfl
    | false =>
      exact readsAs_readValue_scalar (fun _ => ⟨'f', _, rfl, rfl, by decide, by decide⟩)
        fun _ _ _ => rfl
  | whole low high => exact readsAs_readValue_whole low high
  | text t =>
    refine readsAs_readValue_scalar (fun level => ?_) fun level rest _ => ?_
    · obtain ⟨rest, htext⟩ := asciiAt_text_opens t level
      exact ⟨'"', rest, htext, rfl, by decide, by decide⟩
    · rw [asciiAt_text, readScalar, readString_asciiChar]
      rfl
  | array _ ih => exact readsAs_readValue_array ih
  | object ascending _ ih => exact readsAs_readValue_object ascending ih

theorem parse_ascii {v : Value} (h : v.Within maxNesting) : parse v.ascii = .ok v :=
  (readsAs_readValue h).readDocument

end Roster.Json
