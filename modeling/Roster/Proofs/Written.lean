import Roster.Merged.Written
import Roster.Proofs.Json.Values

/-!
# The written form of merged records is read back

A file with merged records can be read in two ways: as merged records, by the readers of records,
and as any JSON value. Both undo the writing.

**Theorem (`Merged.read_toText`).** Reading the text of merged records gives the records.

**Theorem (`Merged.toJson_within`).** The fields of a record stand in the order of their names, so
the text is also the ASCII form of the sorted value that is read from it.
-/

namespace Roster

open Json

/-! ## Records -/

namespace Record

theorem readsAs_readNames (names : List Text) :
    ReadsAs readNames (.array (names.map .text)) names := by
  refine readsAs_readList ?_
  rw [List.forall₂_map_left_iff]
  exact List.forall₂_same.2 fun name _ => readsAs_readText _ name

theorem readsAs_readSource (s : Source) : ReadsAs readSource (.text s.name) s where
  opens := (readsAs_readText [] s.name).opens
  reads level gap rest hgap hrest := by
    have hblank := skipSpace_gap hgap (asciiAt_text s.name level rest) (by decide)
    have hname :=
      (readsAs_readText "variant identifier".toList s.name).reads level [] rest rfl hrest
    rw [List.nil_append, asciiAt_text] at hname
    rw [readSource, readVariant, hblank]
    simp only [readVariantName, hname, bind, Except.bind]
    cases s with
    | documentation => rfl
    | policyGenerator => rfl

theorem readsAs_readSources (sources : List Source) :
    ReadsAs (readList readSource) (.array (sources.map fun s => .text s.name)) sources := by
  refine readsAs_readList ?_
  rw [List.forall₂_map_left_iff]
  exact List.forall₂_same.2 fun s _ => readsAs_readSource s

theorem readOnce_none {α : Type} {value : Reader α} {v : Value} {x : α} (h : ReadsAs value v x)
    (name : Text) (level : Nat) {rest : Text} (hrest : Ends rest) :
    readOnce name none value (": ".toList ++ (v.asciiAt level ++ rest)) = .ok (some x, rest) := by
  have hvalue := h.reads level [' '] rest rfl hrest
  rw [List.singleton_append] at hvalue
  simp only [readOnce, passColon_colon, bind, Except.bind, hvalue]

/-- The four members of a record fill an empty draft, one field each. -/
theorem gathers_readMember (r : Record) :
    Gathers readMember {} [("originalNames".toList, .array (r.names.map .text)),
      ("reference_url".toList, .text r.reference), ("servicePrincipal".toList, .text r.principal),
      ("sources".toList, .array (r.sources.map fun s => .text s.name))]
      ⟨some r.names, some r.reference, some r.principal, some r.sources⟩ := by
  -- The keys are tried in one order, so a field is reached past the names of those before it.
  have hnames : ∀ level rest, Ends rest → readMember "originalNames".toList {}
      (": ".toList ++ ((Value.array (r.names.map .text)).asciiAt level ++ rest)) =
        .ok ({ names := some r.names }, rest) := by
    intro level rest hrest
    have hfield := readOnce_none (readsAs_readNames r.names) "originalNames".toList level hrest
    rw [readMember, if_pos rfl]
    simp only [bind, Except.bind, hfield]
  have hreference : ∀ level rest, Ends rest → readMember "reference_url".toList
      { names := some r.names } (": ".toList ++ ((Value.text r.reference).asciiAt level ++ rest)) =
        .ok ({ names := some r.names, reference := some r.reference }, rest) := by
    intro level rest hrest
    have hfield := readOnce_none (readsAs_readText "a string".toList r.reference)
      "reference_url".toList level hrest
    rw [readMember, if_neg (by decide), if_pos rfl]
    simp only [bind, Except.bind, readField, hfield]
  have hprincipal : ∀ level rest, Ends rest → readMember "servicePrincipal".toList
      { names := some r.names, reference := some r.reference }
      (": ".toList ++ ((Value.text r.principal).asciiAt level ++ rest)) =
        .ok (⟨some r.names, some r.reference, some r.principal, none⟩, rest) := by
    intro level rest hrest
    have hfield := readOnce_none (readsAs_readText "a string".toList r.principal)
      "servicePrincipal".toList level hrest
    rw [readMember, if_neg (by decide), if_neg (by decide), if_pos rfl]
    simp only [bind, Except.bind, readField, hfield]
  have hsources : ∀ level rest, Ends rest → readMember "sources".toList
      ⟨some r.names, some r.reference, some r.principal, none⟩
      (": ".toList ++ ((Value.array (r.sources.map fun s => .text s.name)).asciiAt level ++ rest)) =
        .ok (⟨some r.names, some r.reference, some r.principal, some r.sources⟩, rest) := by
    intro level rest hrest
    have hfield := readOnce_none (readsAs_readSources r.sources) "sources".toList level hrest
    rw [readMember, if_neg (by decide), if_neg (by decide), if_neg (by decide), if_pos rfl]
    simp only [bind, Except.bind, hfield]
  exact .cons hnames (.cons hreference (.cons hprincipal (.cons hsources .nil)))

/-- **A record is read back.** -/
theorem readsAs_read (r : Record) : ReadsAs Record.read r.toJson r where
  opens level := by
    obtain ⟨t, ht, -⟩ := readMembers_object (gathers_readMember r) level []
    rw [List.append_nil] at ht
    exact ⟨'{', t, ht, rfl⟩
  reads level gap rest hgap _ := by
    obtain ⟨t, ht, hread⟩ := readMembers_object (gathers_readMember r) level rest
    have hblank : skipSpace (gap ++ (r.toJson.asciiAt level ++ rest)) = '{' :: t :=
      skipSpace_gap hgap ht (by decide)
    simp only [Record.read, hblank, bind, Except.bind, hread, require]

theorem toJson_within (r : Record) (nesting : Nat) : r.toJson.Within (nesting + 2) := by
  refine .object (by simp; decide) fun e he => ?_
  have hnames : (Value.array (r.names.map .text)).Within (nesting + 1) := by
    refine .array fun v hv => ?_
    obtain ⟨name, -, rfl⟩ := List.mem_map.1 hv
    exact .text name
  have hsources : (Value.array (r.sources.map fun s => .text s.name)).Within (nesting + 1) := by
    refine .array fun v hv => ?_
    obtain ⟨s, -, rfl⟩ := List.mem_map.1 hv
    exact .text s.name
  simp only [List.mem_cons, List.not_mem_nil, or_false] at he
  rcases he with rfl | rfl | rfl | rfl
  · exact hnames
  · exact .text r.reference
  · exact .text r.principal
  · exact hsources

end Record

/-! ## Merged records -/

namespace Merged

theorem read_toText (m : Merged) : Merged.read m.toText = .ok m := by
  have hentries : List.Forall₂ (ReadsAsEntry Record.read)
      (m.entries.map fun e => (e.1, e.2.toJson)) m.entries := by
    rw [List.forall₂_map_left_iff]
    exact List.forall₂_same.2 fun e _ => ⟨rfl, e.2.readsAs_read⟩
  have hread := (readsAs_readIndex hentries m.ascending).readDocument
  rw [Merged.read, toText, toJson, hread]
  simp only [Except.map, Index.ofList_entries]

theorem toJson_within (m : Merged) (nesting : Nat) : m.toJson.Within (nesting + 3) := by
  refine .object (List.pairwise_map.2 m.ascending) fun e he => ?_
  obtain ⟨entry, -, rfl⟩ := List.mem_map.1 he
  exact entry.2.toJson_within nesting

/-- **The written form loses nothing and is canonical.** Reading the text of merged records gives
the records. Reading it as any value gives a value whose members are sorted at every level and whose
ASCII form is the text again. The ASCII form of every value with sorted members and whole numbers of
a machine word that is nested no deeper than a reader allows is read back as the value. -/
theorem toText_decodes :
    (∀ m : Merged, Merged.read m.toText = .ok m) ∧
    (∀ m : Merged, ∃ v : Value, Json.parse m.toText = .ok v ∧ v.Within 3 ∧ v.ascii = m.toText) ∧
    (∀ v : Value, v.Within maxNesting → Json.parse v.ascii = .ok v) := by
  refine ⟨read_toText, fun m => ?_, fun v => parse_ascii⟩
  exact ⟨m.toJson, parse_ascii (m.toJson_within 124), m.toJson_within 0, rfl⟩

/-- A value with a character for each kind of escape. -/
def escapedValue : Value :=
  .array [.text ['"', '\\', '\x00', '\x7f', '\u00e9', Char.ofNat 0x1F600],
    .number (.whole maxWhole), .object [(['k'], .null)]]

theorem toText_decodes_escaped : Json.parse escapedValue.ascii = .ok escapedValue := by
  refine toText_decodes.2.2 _ (.array fun v hv => ?_)
  simp only [List.mem_cons, List.not_mem_nil, or_false] at hv
  rcases hv with rfl | rfl | rfl
  · exact .text _
  · exact .whole (by decide) (by decide)
  · refine .object (List.pairwise_singleton _ _) fun e he => ?_
    rw [List.mem_singleton.1 he]
    exact .null

end Merged

end Roster
