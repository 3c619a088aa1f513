import Roster.Proofs.Text.Lowercase
import Roster.Service

/-!
# Laws of service names

The key of a name forgets how the name is spelled: its case, the white space around it, its signs,
and one vendor word in front of it.

* `NamesVendor` says that a word names the vendor, in any case.

**Theorem (`key_eq_finish`).** The key is made from the lower case of the single characters; which
form a sigma has does not matter.

**Theorem (`key_is_canonical`).** The key of a name holds small letters and digits only, is its own
key, and does not depend on white space around the name or on the case of its letters. One vendor
word with white space behind it is dropped and no more; a vendor word without is kept.

Only ASCII counts for a key, and no character of a vendor word is a sigma, so everything can be said
of the text that `Text.lowered` gives, which is put together character by character.
-/

namespace Roster.Name

open Text (isBlank lowered unfinal)

variable {t vendor word : Text}

/-! ## The characters of a key -/

theorem isKeyChar_iff {c : Char} :
    isKeyChar c = true ↔ 97 ≤ c.toNat ∧ c.toNat ≤ 122 ∨ 48 ≤ c.toNat ∧ c.toNat ≤ 57 := by
  simp only [isKeyChar, Text.isDigit, Bool.or_eq_true, Bool.and_eq_true, decide_eq_true_eq,
    Text.le_iff_toNat_le]
  rfl

theorem isBlank_of_isKeyChar {c : Char} (h : isKeyChar c = true) : isBlank c = false := by
  rw [isKeyChar_iff] at h
  rw [← Bool.not_eq_true, Text.isBlank_iff]
  omega

theorem lowered_of_isKeyChar {c : Char} (h : isKeyChar c = true) : lowered c = [c] := by
  rw [isKeyChar_iff] at h
  have hlower : c.toLower = c := by
    rw [← Char.toNat_inj, Text.toNat_toLower]
    split_ifs <;> omega
  rw [Text.lowered_of_ascii (by omega), hlower]

/-- Small letters and digits are their own lower case. -/
theorem flatMap_lowered_of_isKeyChar (h : ∀ c ∈ t, isKeyChar c = true) : t.flatMap lowered = t := by
  rw [List.flatMap_congr fun c hc => lowered_of_isKeyChar (h c hc), List.flatMap_singleton']

theorem filter_of_blanks (h : ∀ c ∈ t, isBlank c = true) : t.filter isKeyChar = [] := by
  rw [List.filter_eq_nil_iff]
  intro c hc hkey
  exact nomatch (isBlank_of_isKeyChar hkey).symm.trans (h c hc)

theorem filter_trimStart (t : Text) : (Text.trimStart t).filter isKeyChar = t.filter isKeyChar := by
  obtain ⟨front, ht, hblanks⟩ := Text.exists_trimStart t
  have hfilter := congrArg (List.filter isKeyChar) ht
  rw [List.filter_append, filter_of_blanks hblanks, List.nil_append] at hfilter
  exact hfilter.symm

theorem filter_trimEnd (t : Text) : (Text.trimEnd t).filter isKeyChar = t.filter isKeyChar := by
  have hreverse := filter_trimStart t.reverse
  rw [List.filter_reverse] at hreverse
  rw [Text.trimEnd, Text.dropEndWhile, List.filter_reverse, ← Text.trimStart, hreverse,
    List.reverse_reverse]

theorem filter_map_unfinal (t : Text) : (t.map unfinal).filter isKeyChar = t.filter isKeyChar := by
  induction t with
  | nil => rfl
  | cons c rest ih =>
    have hkey : isKeyChar 'σ' = false := by decide
    have hfinal : isKeyChar 'ς' = false := by decide
    by_cases hc : c = 'ς'
    · simp [unfinal, hc, hkey, hfinal, ih]
    · simp [unfinal, hc, List.filter_cons, ih]

theorem filter_lowercase (t : Text) :
    (Text.lowercase t).filter isKeyChar = (t.flatMap lowered).filter isKeyChar := by
  rw [← filter_map_unfinal, Text.map_unfinal_lowercase]

/-! ## Vendor words -/

theorem dropVendor_eq (t : Text) :
    dropVendor t =
      ((afterWord? "amazon".toList t).or (afterWord? "aws".toList t)).getD t := by
  rw [dropVendor, vendors, List.findSome?_cons, List.findSome?_singleton]
  cases afterWord? "amazon".toList t <;> rfl

theorem afterWord?_append (word : Text) {c : Char} (hc : isBlank c = true) (rest : Text) :
    afterWord? word (word ++ c :: rest) = some (Text.trimStart rest) := by
  have hafter : Text.after? word (word ++ c :: rest) = some (c :: rest) :=
    Text.after?_eq_some_iff.2 rfl
  rw [afterWord?, hafter]
  exact if_pos hc

theorem afterWord?_append_of_head (word : Text) {rest : Text}
    (h : ∀ c ∈ rest.head?, isBlank c = false) : afterWord? word (word ++ rest) = none := by
  have hafter : Text.after? word (word ++ rest) = some rest := Text.after?_eq_some_iff.2 rfl
  rw [afterWord?, hafter]
  cases rest with
  | nil => rfl
  | cons c rest => exact if_neg (by simp [h c rfl])

theorem afterWord?_of_not_blank (word : Text) (h : ∀ c ∈ t, isBlank c = false) :
    afterWord? word t = none := by
  unfold afterWord?
  split
  · next c rest hafter =>
    have hc : c ∈ t := by simp [Text.after?_eq_some_iff.1 hafter]
    exact if_neg (by simp [h c hc])
  · rfl

theorem after?_map_unfinal (hword : Text.NoSigma word) (t : Text) :
    Text.after? word (t.map unfinal) = (Text.after? word t).map (List.map unfinal) := by
  ext rest
  rw [Text.after?_eq_some_iff, List.map_eq_append_iff, Option.map_eq_some_iff]
  constructor
  · rintro ⟨lead, rest', rfl, hlead, hrest⟩
    obtain rfl := (Text.map_unfinal_eq_iff hword).1 hlead
    exact ⟨rest', Text.after?_eq_some_iff.2 rfl, hrest⟩
  · rintro ⟨rest', hafter, hrest⟩
    exact ⟨word, rest', Text.after?_eq_some_iff.1 hafter, (Text.map_unfinal_eq_iff hword).2 rfl,
      hrest⟩

theorem afterWord?_map_unfinal (hword : Text.NoSigma word) (t : Text) :
    afterWord? word (t.map unfinal) = (afterWord? word t).map (List.map unfinal) := by
  have htrim (rest : Text) :
      Text.trimStart (rest.map unfinal) = (Text.trimStart rest).map unfinal := by
    have hblank : isBlank ∘ unfinal = isBlank := funext Text.isBlank_unfinal
    rw [Text.trimStart, List.dropWhile_map, hblank]
    rfl
  unfold afterWord?
  rw [after?_map_unfinal hword]
  cases Text.after? word t with
  | none => rfl
  | some after =>
    cases after with
    | nil => rfl
    | cons c rest =>
      by_cases hc : isBlank c = true <;> simp [Text.isBlank_unfinal, hc, htrim]

theorem dropVendor_map_unfinal (t : Text) :
    dropVendor (t.map unfinal) = (dropVendor t).map unfinal := by
  rw [dropVendor_eq, dropVendor_eq, afterWord?_map_unfinal (by decide),
    afterWord?_map_unfinal (by decide)]
  cases afterWord? "amazon".toList t <;> cases afterWord? "aws".toList t <;> rfl

theorem dropVendor_of_not_blank (h : ∀ c ∈ t, isBlank c = false) : dropVendor t = t := by
  rw [dropVendor_eq, afterWord?_of_not_blank _ h, afterWord?_of_not_blank _ h]
  rfl

/-- A vendor word with white space behind it is dropped. -/
theorem dropVendor_append (hword : word ∈ vendors) {c : Char} (hc : isBlank c = true)
    (rest : Text) : dropVendor (word ++ c :: rest) = Text.trimStart rest := by
  rw [dropVendor_eq]
  simp only [vendors, List.mem_cons, List.not_mem_nil, or_false] at hword
  rcases hword with rfl | rfl
  · rw [afterWord?_append _ hc]
    rfl
  · have hother : afterWord? "amazon".toList ("aws".toList ++ c :: rest) = none := rfl
    rw [hother, afterWord?_append _ hc]
    rfl

/-- A vendor word without white space behind it is kept. -/
theorem dropVendor_append_of_head (hword : word ∈ vendors) {rest : Text}
    (h : ∀ c ∈ rest.head?, isBlank c = false) : dropVendor (word ++ rest) = word ++ rest := by
  rw [dropVendor_eq]
  simp only [vendors, List.mem_cons, List.not_mem_nil, or_false] at hword
  rcases hword with rfl | rfl
  · have hother : afterWord? "aws".toList ("amazon".toList ++ rest) = none := rfl
    rw [hother, afterWord?_append_of_head _ h]
    rfl
  · have hother : afterWord? "amazon".toList ("aws".toList ++ rest) = none := rfl
    rw [hother, afterWord?_append_of_head _ h]
    rfl

/-! ## Keys -/

/-- What is done with a name in lower case. -/
def finish (t : Text) : Text := (dropVendor (Text.trim t)).filter isKeyChar

theorem finish_map_unfinal (t : Text) : finish (t.map unfinal) = finish t := by
  have htrim : Text.trim (t.map unfinal) = (Text.trim t).map unfinal := by
    have hflat (u : Text) : u.flatMap (fun c => [unfinal c]) = u.map unfinal :=
      List.flatMap_pure_eq_map unfinal u
    rw [← hflat, ← hflat]
    apply Text.trim_flatMap
    · intro c hc
      have hfinal : c ≠ 'ς' := by
        rintro rfl
        exact absurd hc (by decide)
      rw [unfinal, if_neg hfinal]
    · intro c
      exact List.cons_ne_nil _ _
    · intro c d hd
      rw [List.mem_singleton.1 hd, Text.isBlank_unfinal]
  rw [finish, htrim, dropVendor_map_unfinal, filter_map_unfinal, finish]

/-- **The key is made from the lower case of the single characters.** -/
theorem key_eq_finish (name : Text) : key name = finish (name.flatMap lowered) := by
  rw [← Text.map_unfinal_lowercase, finish_map_unfinal]
  rfl

theorem key_of_isKeyChar (h : ∀ c ∈ t, isKeyChar c = true) : key t = t := by
  have hblank : ∀ c ∈ t, isBlank c = false := by
    intro c hc
    exact isBlank_of_isKeyChar (h c hc)
  have htight : Text.Tight t := by
    constructor
    · intro c hc
      exact hblank c (List.mem_of_mem_head? hc)
    · intro c hc
      exact hblank c (List.mem_of_mem_getLast? hc)
  rw [key_eq_finish, flatMap_lowered_of_isKeyChar h, finish, Text.trim_of_tight htight,
    dropVendor_of_not_blank hblank, List.filter_eq_self.2 h]

theorem flatMap_lowered_of_blanks (h : ∀ c ∈ t, isBlank c = true) : t.flatMap lowered = t := by
  rw [List.flatMap_congr fun c hc => Text.lowered_of_blank (h c hc), List.flatMap_singleton']

/-- White space around a name does not matter. -/
theorem key_blanks {front back : Text} (hfront : ∀ c ∈ front, isBlank c = true)
    (hback : ∀ c ∈ back, isBlank c = true) (name : Text) :
    key (front ++ name ++ back) = key name := by
  rw [key_eq_finish, List.flatMap_append, List.flatMap_append, flatMap_lowered_of_blanks hfront,
    flatMap_lowered_of_blanks hback, finish, Text.trim_append_blanks hback,
    Text.trim_blanks_append hfront, key_eq_finish, finish]

theorem flatMap_lowered_asciiLower (t : Text) :
    (Text.asciiLower t).flatMap lowered = t.flatMap lowered := by
  rw [Text.asciiLower, List.flatMap_map]
  exact List.flatMap_congr fun c _ => Text.lowered_toLower c

/-- The case of letters of ASCII does not matter. -/
theorem key_congr {name name' : Text} (h : Text.asciiLower name = Text.asciiLower name') :
    key name = key name' := by
  rw [key_eq_finish, key_eq_finish, ← flatMap_lowered_asciiLower, h, flatMap_lowered_asciiLower]

/-! ## Names with a vendor word -/

/-- The word names the vendor, in any case. -/
def NamesVendor (word : Text) : Prop :=
  Text.asciiLower word = "aws".toList ∨ Text.asciiLower word = "amazon".toList

theorem NamesVendor.mem_vendors (h : NamesVendor word) : Text.asciiLower word ∈ vendors := by
  rcases h with h | h <;> rw [h] <;> decide

theorem NamesVendor.isKeyChar (h : NamesVendor word) :
    ∀ c ∈ Text.asciiLower word, isKeyChar c = true := by
  rcases h with h | h <;> rw [h] <;> exact List.all_eq_true.1 (by decide)

theorem NamesVendor.ne_nil (h : NamesVendor word) : Text.asciiLower word ≠ [] := by
  rcases h with h | h <;> rw [h] <;> decide

theorem NamesVendor.flatMap_lowered (h : NamesVendor word) :
    word.flatMap lowered = Text.asciiLower word := by
  rw [← flatMap_lowered_asciiLower, flatMap_lowered_of_isKeyChar h.isKeyChar]

/-- **One vendor word with white space behind it is dropped.** -/
theorem key_behind_vendor (hvendor : NamesVendor vendor) {blanks name : Text} (hne : blanks ≠ [])
    (hblanks : ∀ c ∈ blanks, isBlank c = true) (hname : ∃ c ∈ name, isBlank c = false) :
    key (vendor ++ blanks ++ name) = (Text.lowercase name).filter isKeyChar := by
  have hmore : Text.allBlank (name.flatMap lowered) = false := by
    rw [Text.allBlank_lowered]
    exact Text.allBlank_eq_false_iff.2 hname
  -- The vendor word keeps the trimming at the start off, and the name keeps it off at the end.
  have htrim : Text.trim (Text.asciiLower vendor ++ (blanks ++ name.flatMap lowered)) =
      Text.asciiLower vendor ++ (blanks ++ Text.trimEnd (name.flatMap lowered)) := by
    cases hword : Text.asciiLower vendor with
    | nil => exact absurd hword hvendor.ne_nil
    | cons c word =>
      have hc : isBlank c = false :=
        isBlank_of_isKeyChar (hvendor.isKeyChar c (by rw [hword]; exact List.mem_cons_self))
      rw [List.cons_append, Text.trim, Text.trimStart_cons hc, ← List.cons_append,
        ← List.append_assoc, Text.trimEnd_append hmore, List.append_assoc]
  rw [key_eq_finish, List.flatMap_append, List.flatMap_append, hvendor.flatMap_lowered,
    flatMap_lowered_of_blanks hblanks, List.append_assoc, finish, htrim, filter_lowercase]
  cases blanks with
  | nil => exact absurd rfl hne
  | cons c blanks =>
    obtain ⟨hc, hrest⟩ := List.forall_mem_cons.1 hblanks
    rw [List.cons_append, dropVendor_append hvendor.mem_vendors hc, filter_trimStart,
      List.filter_append, filter_of_blanks hrest, List.nil_append, filter_trimEnd]

/-- **A vendor word without white space behind it is kept.** -/
theorem key_of_vendor (hvendor : NamesVendor vendor) {name rest : Text}
    (hname : Text.lowercase (Text.trim name) = Text.asciiLower vendor ++ rest)
    (hrest : ∀ c ∈ rest.head?, isBlank c = false) :
    key name = Text.asciiLower vendor ++ rest.filter isKeyChar := by
  rw [key_eq_finish, finish, Text.trim_lowered, ← Text.map_unfinal_lowercase, hname,
    dropVendor_map_unfinal, filter_map_unfinal,
    dropVendor_append_of_head hvendor.mem_vendors hrest, List.filter_append,
    List.filter_eq_self.2 hvendor.isKeyChar]

theorem filter_lowercase_vendor (hvendor : NamesVendor vendor) (rest : Text) :
    (Text.lowercase (vendor ++ rest)).filter isKeyChar =
      Text.asciiLower vendor ++ (Text.lowercase rest).filter isKeyChar := by
  rw [filter_lowercase, filter_lowercase, List.flatMap_append, hvendor.flatMap_lowered,
    List.filter_append, List.filter_eq_self.2 hvendor.isKeyChar]

theorem NamesVendor.exists_not_blank (h : NamesVendor word) (rest : Text) :
    ∃ c ∈ word ++ rest, isBlank c = false := by
  obtain ⟨c, hc⟩ := List.exists_mem_of_ne_nil _ h.ne_nil
  have hlower : Text.allBlank (word.flatMap lowered) = false := by
    rw [h.flatMap_lowered]
    exact Text.allBlank_eq_false_iff.2 ⟨c, hc, isBlank_of_isKeyChar (h.isKeyChar c hc)⟩
  rw [Text.allBlank_lowered] at hlower
  obtain ⟨d, hd, hblank⟩ := Text.allBlank_eq_false_iff.1 hlower
  exact ⟨d, List.mem_append_left _ hd, hblank⟩

/-- **The key of a name is canonical.** It holds small letters and digits only and is its own key.
White space around the name and the case of its ASCII letters do not matter. A vendor word with
white space and more behind it is dropped, and a second one behind it is kept; a vendor word that is
the whole name, or has something else than white space behind it, is kept as well. -/
theorem key_is_canonical :
    (∀ name, ∀ c ∈ key name, ('a' ≤ c ∧ c ≤ 'z') ∨ ('0' ≤ c ∧ c ≤ '9')) ∧
    (∀ name, key (key name) = key name) ∧
    (∀ front name back : Text, (∀ c ∈ front, isBlank c = true) → (∀ c ∈ back, isBlank c = true) →
      key (front ++ name ++ back) = key name) ∧
    (∀ name name', Text.asciiLower name = Text.asciiLower name' → key name = key name') ∧
    (∀ vendor blanks name : Text, NamesVendor vendor → blanks ≠ [] →
      (∀ c ∈ blanks, isBlank c = true) → (∃ c ∈ name, isBlank c = false) →
      key (vendor ++ blanks ++ name) = (Text.lowercase name).filter isKeyChar) ∧
    (∀ vendor blanks second name : Text, NamesVendor vendor → NamesVendor second → blanks ≠ [] →
      (∀ c ∈ blanks, isBlank c = true) →
      Text.asciiLower second <+: key (vendor ++ blanks ++ (second ++ name))) ∧
    ∀ vendor name rest : Text, NamesVendor vendor →
      Text.lowercase (Text.trim name) = Text.asciiLower vendor ++ rest →
      (∀ c ∈ rest.head?, isBlank c = false) →
      key name = Text.asciiLower vendor ++ rest.filter isKeyChar := by
  have hchars (name : Text) : ∀ c ∈ key name, isKeyChar c = true := by
    intro c hc
    exact (List.mem_filter.1 hc).2
  refine ⟨?_, ?_, ?_, ?_, ?_, ?_, ?_⟩
  · intro name c hc
    have hkey := hchars name c hc
    simpa [isKeyChar, Text.isDigit] using hkey
  · intro name
    exact key_of_isKeyChar (hchars name)
  · intro front name back hfront hback
    exact key_blanks hfront hback name
  · intro name name' h
    exact key_congr h
  · intro vendor blanks name hvendor hne hblanks hname
    exact key_behind_vendor hvendor hne hblanks hname
  · intro vendor blanks second name hvendor hsecond hne hblanks
    rw [key_behind_vendor hvendor hne hblanks (hsecond.exists_not_blank name),
      filter_lowercase_vendor hsecond]
    exact List.prefix_append _ _
  · intro vendor name rest hvendor hname hrest
    exact key_of_vendor hvendor hname hrest

/-- Two vendor words in mixed case, a sigma at the end of a word, a capital with a dot and a Kelvin
sign; and a vendor word that is the start of a longer one. -/
theorem key_is_canonical_mixed :
    key (['\u2003'] ++ "AwS  aMaZoN ΒΣ İ\u212A".toList ++ ['\n']) =
      key "AwS  aMaZoN ΒΣ İ\u212A".toList ∧
    key ("AwS".toList ++ "  ".toList ++ "aMaZoN ΒΣ İ\u212A".toList) = "amazonik".toList ∧
    "amazon".toList <+: key ("AwS".toList ++ "  ".toList ++ ("aMaZoN".toList ++ " x".toList)) ∧
    key "AWS".toList = key "aws".toList ∧
    key " AWSΒΣ 2 ".toList = "aws".toList ++ "βς 2".toList.filter isKeyChar := by
  obtain ⟨-, -, hblanks, hcase, hdropped, hsecond, hkept⟩ := key_is_canonical
  have haws : NamesVendor "AwS".toList := .inl (by decide)
  have hamazon : NamesVendor "aMaZoN".toList := .inr (by decide)
  have hspaces : ∀ c ∈ "  ".toList, isBlank c = true := Text.allBlank_iff.1 (by decide)
  have hname : ∃ c ∈ "aMaZoN ΒΣ İ\u212A".toList, isBlank c = false :=
    Text.allBlank_eq_false_iff.1 (by decide)
  have hletter : ∀ c ∈ ("βς 2".toList).head?, isBlank c = false := by
    intro c hc
    obtain rfl := Option.some.inj hc
    decide
  refine ⟨?_, ?_, ?_, ?_, ?_⟩
  · exact hblanks _ _ _ (Text.allBlank_iff.1 (by decide)) (Text.allBlank_iff.1 (by decide))
  · exact (hdropped _ _ _ haws (by decide) hspaces hname).trans (by decide +kernel)
  · exact hsecond _ _ _ _ haws hamazon (by decide) hspaces
  · exact hcase _ _ (by decide)
  · exact hkept "aws".toList _ _ (.inl (by decide)) (by decide +kernel) hletter

end Roster.Name
