import Roster.Proofs.Json.Documents
import Roster.Proofs.Json.Skipping
import Roster.Proofs.Policy
import Roster.Proofs.Utf8

/-!
# The services of a payload

The payload has one map of services. Which services are listed follows from the members of that map
alone: each key counts once, with its last value, and a value that declares no service is left out.
How the text is written and what else is in the payload plays no part.

* `HoldsServices` says that a payload is a JSON object whose only `serviceMap` is an object with
  certain members.
* `DeclaresService` says which values declare a service.

**Theorem (`services_decode`).** The services of such a payload are the declared ones, in the order
of their keys. What stands under a key decides about the service of that key only, and neither the
order of members with different keys nor the way they are written matters. The report has the last
service of each name.

A payload is taken apart by the grammar of its text (`Spells`), so that white space and repeated keys
are in view. Reading it passes over the other members and gathers the map (`steps_readMember`); all
the rest is about the index of its members.
-/

namespace Roster.Policy

open Json

/-! ## What a payload holds -/

/-- The payload is an object with exactly one service map, which has those members in that order. -/
def HoldsServices (payload : Text) (services : List (Text × Value)) : Prop :=
  ∃ (p : Padded) (members inner : List Member) (m : Member), payload = p.text ∧
    SpellsMembers (maxNesting - 1) p.core members ∧
    (members.filter fun m => m.label.key = "serviceMap".toList) = [m] ∧
    SpellsMembers (maxNesting - 2) m.written.core inner ∧ services = inner.map Member.entry

/-- The value declares a service with a prefix and a name, if it has one. -/
inductive DeclaresService : Value → Text → Option Text → Prop where
  | unnamed {fields : List (Text × Value)} {lead : Text}
      (hlead : fields.lookup "StringPrefix".toList = some (.text lead))
      (hname : fields.lookup "name".toList = none ∨ fields.lookup "name".toList = some .null) :
      DeclaresService (.object fields) lead none
  | named {fields : List (Text × Value)} {lead name : Text}
      (hlead : fields.lookup "StringPrefix".toList = some (.text lead))
      (hname : fields.lookup "name".toList = some (.text name)) :
      DeclaresService (.object fields) lead (some name)
  | single (lead : Text) : DeclaresService (.array [.text lead]) lead none
  | null (lead : Text) : DeclaresService (.array [.text lead, .null]) lead none
  | pair (lead name : Text) : DeclaresService (.array [.text lead, .text name]) lead (some name)

/-! ## Values -/

theorem optionalText?_eq_some_iff {v : Value} {given : Option Text} :
    optionalText? v = some given ↔
      v = .null ∧ given = none ∨ ∃ t, v = .text t ∧ given = some t := by
  cases v <;> simp [optionalText?, eq_comm]

theorem fieldText?_eq_some_iff {v : Option Value} {given : Option Text} :
    fieldText? v = some given ↔
      (v = none ∨ v = some .null) ∧ given = none ∨ ∃ t, v = some (.text t) ∧ given = some t := by
  cases v with
  | none => simp [fieldText?, eq_comm]
  | some v => simp [fieldText?, optionalText?_eq_some_iff]

theorem declared_of_fields {lead? name? : Option Value} {lead : Text} {name : Option Text} :
    (do let lead ← fieldText? lead?; let name ← fieldText? name?; some (lead, name)) =
        some (some lead, name) ↔
      lead? = some (.text lead) ∧ fieldText? name? = some name := by
  simp only [bind, Option.bind_eq_some_iff, fieldText?_eq_some_iff, Option.some.injEq,
    Prod.mk.injEq]
  constructor
  · rintro ⟨given, hlead, given', hname, rfl, rfl⟩
    rcases hlead with ⟨-, hnone⟩ | ⟨t, rfl, ht⟩
    · exact nomatch hnone
    · obtain rfl := Option.some.inj ht
      exact ⟨rfl, hname⟩
  · rintro ⟨rfl, hname⟩
    exact ⟨some lead, .inr ⟨lead, rfl, rfl⟩, name, hname, rfl, rfl⟩

/-- The values that declare a prefix, and those only. -/
theorem declared?_eq_some_iff {v : Value} {lead : Text} {name : Option Text} :
    declared? v = some (some lead, name) ↔ DeclaresService v lead name := by
  constructor
  · intro h
    cases v with
    | object fields =>
      obtain ⟨hlead, hname⟩ := declared_of_fields.1 h
      rcases fieldText?_eq_some_iff.1 hname with ⟨hmissing, rfl⟩ | ⟨t, ht, rfl⟩
      · exact .unnamed hlead hmissing
      · exact .named hlead ht
    | array items =>
      rw [declared?] at h
      split_ifs at h with hlong
      obtain ⟨hlead, hname⟩ := declared_of_fields.1 h
      match items with
      | [] => exact nomatch hlead
      | [item] =>
        obtain rfl := Option.some.inj hlead
        obtain rfl := Option.some.inj hname
        exact .single lead
      | [item, item'] =>
        obtain rfl := Option.some.inj hlead
        rcases fieldText?_eq_some_iff.1 hname with ⟨hmissing, rfl⟩ | ⟨t, ht, rfl⟩
        · rcases hmissing with hmissing | hmissing
          · exact nomatch hmissing
          · obtain rfl := Option.some.inj hmissing
            exact .null lead
        · obtain rfl := Option.some.inj ht
          exact .pair lead t
      | _ :: _ :: _ :: items =>
        simp only [List.length_cons] at hlong
        omega
    | null => exact nomatch h
    | bool b => exact nomatch h
    | number n => exact nomatch h
    | text t => exact nomatch h
  · intro h
    cases h with
    | unnamed hlead hname =>
      exact declared_of_fields.2 ⟨hlead, fieldText?_eq_some_iff.2 (.inl ⟨hname, rfl⟩)⟩
    | named hlead hname =>
      exact declared_of_fields.2 ⟨hlead, fieldText?_eq_some_iff.2 (.inr ⟨_, hname, rfl⟩)⟩
    | single lead => rfl
    | null lead => rfl
    | pair lead name => rfl

/-- **A value lists a service** exactly if it declares one whose prefix is not empty. -/
theorem listed?_eq_some_iff {v : Value} {l : Listed} :
    listed? v = some l ↔ ∃ lead name, DeclaresService v lead name ∧ lead ≠ [] ∧
      l = ⟨name.getD lead, lead ++ Principal.suffix⟩ := by
  simp only [← declared?_eq_some_iff]
  constructor
  · exact listed?_declared
  · rintro ⟨lead, name, hdeclared, hlead, rfl⟩
    rw [listed?, hdeclared]
    exact if_neg (mt List.isEmpty_iff.1 hlead)

/-! ## Reading the payload -/

section Payload

variable {members : List Member}

theorem steps_append {σ : Type} {member : Text → σ → Reader σ} {s s' s'' : σ}
    {others : List Member} (h : Steps member s members s') (hothers : Steps member s' others s'') :
    Steps member s (members ++ others) s'' := by
  induction h with
  | nil => exact hothers
  | cons head _ ih => exact .cons head (ih hothers)

theorem steps_unknown (h : ∀ m ∈ members, Spells (maxNesting - 1) m.written.core m.value)
    (hkeys : ∀ m ∈ members, m.label.key ≠ "serviceMap".toList)
    (given : Option (List (Text × Value))) : Steps readMember given members given := by
  induction members with
  | nil => exact .nil
  | cons m members ih =>
    refine .cons (fun rest hrest => ?_) (ih (fun m' hm' => h m' (List.mem_cons_of_mem m hm'))
      fun m' hm' => hkeys m' (List.mem_cons_of_mem m hm'))
    have hskip := (h m List.mem_cons_self).skipValue m.written.blank_front hrest
    rw [readMember, if_neg (hkeys m List.mem_cons_self), passUnknown,
      passColon_blank m.label.blank_back]
    simp only [bind, Except.bind, hskip]

theorem readServices_spelled {front core : Text} (hfront : front.all isSpace = true)
    (h : SpellsMembers (maxNesting - 2) core members) (rest : Text) :
    readServices (front ++ (core ++ rest)) =
      .ok ((Index.ofList (members.map Member.entry)).entries, rest) := by
  obtain ⟨hspells, gap, hgap, rfl⟩ := h
  obtain ⟨t, ht, hread⟩ := readMembers_readEntry_enclose
    (fun m hm => (hspells m hm).readsFrom) hgap rest
  have hspace : skipSpace (front ++ '{' :: t) = '{' :: t := skipSpace_gap hfront rfl (by decide)
  rw [ht]
  simp only [readServices, readIndex, hspace, hread]

theorem steps_readMember {before after inner : List Member} {m : Member}
    (h : ∀ m' ∈ before ++ m :: after, Spells (maxNesting - 1) m'.written.core m'.value)
    (hkey : m.label.key = "serviceMap".toList)
    (hbefore : ∀ m' ∈ before, m'.label.key ≠ "serviceMap".toList)
    (hafter : ∀ m' ∈ after, m'.label.key ≠ "serviceMap".toList)
    (hinner : SpellsMembers (maxNesting - 2) m.written.core inner) :
    Steps readMember none (before ++ m :: after)
      (some (Index.ofList (inner.map Member.entry)).entries) := by
  have hfront := steps_unknown (fun m' hm' => h m' (List.mem_append_left _ hm')) hbefore none
  have hback := steps_unknown
    (fun m' hm' => h m' (List.mem_append_right _ (List.mem_cons_of_mem m hm'))) hafter
    (some (Index.ofList (inner.map Member.entry)).entries)
  refine steps_append hfront (.cons (fun rest _ => ?_) hback)
  have hservices := readServices_spelled m.written.blank_front hinner rest
  rw [readMember, if_pos hkey]
  simp only [readOnce, passColon_blank m.label.blank_back, bind, Except.bind, hservices]

end Payload

/-- **The services of a payload** are listed in the order of their keys. -/
theorem services_eq_ok {payload : Text} {members : List (Text × Value)}
    (h : HoldsServices payload members) :
    services payload = .ok ((Index.ofList members).entries.filterMap fun e => listed? e.2) := by
  obtain ⟨p, outer, inner, m, rfl, ⟨hspells, gap, hgap, hcore⟩, honly, hinner, rfl⟩ := h
  obtain ⟨before, after, rfl, hbefore, hkey, hafter⟩ := List.filter_eq_cons_iff.1 honly
  have hothers := List.filter_eq_nil_iff.1 hafter
  have hsteps := steps_readMember hspells (of_decide_eq_true hkey)
    (fun m' hm' hname => hbefore m' hm' (decide_eq_true hname))
    (fun m' hm' hname => hothers m' hm' (decide_eq_true hname)) hinner
  obtain ⟨t, ht, hread⟩ := readMembers_enclose hsteps hgap p.back
  have hspace : skipSpace (p.front ++ '{' :: t) = '{' :: t :=
    skipSpace_gap p.blank_front rfl (by decide)
  have hpayload : readPayload p.text =
      .ok ((Index.ofList (inner.map Member.entry)).entries, p.back) := by
    rw [Padded.text, hcore, ht]
    simp only [readPayload, hspace, bind, Except.bind, hread, require]
  rw [services, readDocument_eq_ok_iff.2 ⟨p.back, hpayload, p.blank_back⟩]
  rfl

/-! ## Services of two payloads -/

section Services

variable {members members' : List (Text × Value)}

/-- The service that the last value under a key declares. -/
def serviceUnder (members : List (Text × Value)) (key : Text) : Option Listed :=
  ((Index.ofList members).find? key).bind listed?

theorem filterMap_entries (members : List (Text × Value)) (key : Text) :
    ((Index.ofList members).entries.filterMap fun e => listed? e.2) =
      (((Index.ofList members).entries.filter fun e => e.1 < key).filterMap fun e => listed? e.2) ++
        (serviceUnder members key).toList ++
      (((Index.ofList members).entries.filter fun e => key < e.1).filterMap
        fun e => listed? e.2) := by
  have hown : (((Index.ofList members).find? key).toList.map fun v => (key, v)).filterMap
      (fun e => listed? e.2) = (serviceUnder members key).toList := by
    rw [serviceUnder]
    cases (Index.ofList members).find? key with
    | none => rfl
    | some v => cases hlisted : listed? v <;> simp [hlisted]
  conv_lhs => rw [(Index.ofList members).entries_split key]
  rw [List.filterMap_append, List.filterMap_append, hown]

/-- What stands under one key decides about the service of that key only. -/
theorem neighbours_stay {key : Text}
    (h : (members.filter fun e => e.1 ≠ key) = members'.filter fun e => e.1 ≠ key) :
    ∃ lower upper,
      ((Index.ofList members).entries.filterMap fun e => listed? e.2) =
        lower ++ (serviceUnder members key).toList ++ upper ∧
      ((Index.ofList members').entries.filterMap fun e => listed? e.2) =
        lower ++ (serviceUnder members' key).toList ++ upper := by
  have hothers (k : Text) (hk : k ≠ key) :
      (Index.ofList members).find? k = (Index.ofList members').find? k := by
    have hkeep : decide (k ≠ key) = true := decide_eq_true hk
    rw [← Index.find?_ofList_filter (q := fun k => k ≠ key) members hkeep, h,
      Index.find?_ofList_filter (q := fun k => k ≠ key) members' hkeep]
  have hlower := Index.filter_entries_congr (q := fun k => k < key) fun k hk =>
    hothers k (Index.ne_of_lt (of_decide_eq_true hk))
  have hupper := Index.filter_entries_congr (q := fun k => key < k) fun k hk =>
    hothers k (Index.ne_of_lt (of_decide_eq_true hk)).symm
  refine ⟨_, _, filterMap_entries members key, ?_⟩
  rw [filterMap_entries members' key, ← hlower, ← hupper]

theorem ofList_eq_of_filter_eq
    (h : ∀ key, (members.filter fun e => e.1 = key) = members'.filter fun e => e.1 = key) :
    Index.ofList members = Index.ofList members' := by
  refine Index.eq_of_find?_eq fun key => ?_
  have hkeep : decide (key = key) = true := decide_eq_true rfl
  rw [← Index.find?_ofList_filter (q := fun k => k = key) members hkeep, h key,
    Index.find?_ofList_filter (q := fun k => k = key) members' hkeep]

end Services

/-! ## Reports -/

theorem find?_reportOf {reference name : Text} {listed : List Listed} {mention : Mention} :
    (reportOf reference listed).find? name = some mention ↔
      ∃ front l back, listed = front ++ l :: back ∧ l.name = name ∧
        (∀ l' ∈ back, l'.name ≠ name) ∧ mention = ⟨l.principal, reference⟩ := by
  rw [reportOf, Index.find?_ofList_eq_some_iff]
  constructor
  · rintro ⟨front, back, hsplit, hback⟩
    obtain ⟨before, others, rfl, rfl, hothers⟩ := List.map_eq_append_iff.1 hsplit
    obtain ⟨l, after, rfl, hl, rfl⟩ := List.map_eq_cons_iff.1 hothers
    obtain ⟨rfl, rfl⟩ := Prod.mk.inj hl
    refine ⟨before, l, after, rfl, rfl, fun l' hl' => ?_, rfl⟩
    exact hback _ (List.mem_map.2 ⟨l', hl', rfl⟩)
  · rintro ⟨front, l, back, rfl, rfl, hback, rfl⟩
    refine ⟨_, _, by rw [List.map_append, List.map_cons], fun e he => ?_⟩
    obtain ⟨l', hl', rfl⟩ := List.mem_map.1 he
    exact hback l' hl'

theorem countPrincipals_eq (listed : List Listed) :
    ∃ principals : List Text, principals.Nodup ∧
      (∀ principal, principal ∈ principals ↔ ∃ l ∈ listed, l.principal = principal) ∧
      countPrincipals listed = principals.length := by
  refine ⟨(Index.ofList (listed.map fun l => (l.principal, ()))).keys, Index.keys_nodup _,
    fun principal => ?_, ?_⟩
  · rw [Index.mem_keys_ofList, List.map_map, List.mem_map]
    rfl
  · rw [countPrincipals, Index.size, Index.keys, List.length_map]

/-! ## The whole payload -/

theorem parse_object_iff {payload : Text} {entries : List (Text × Value)} :
    Json.parse payload = .ok (.object entries) ↔
      ∃ (p : Padded) (members : List Member), payload = p.text ∧
        SpellsMembers (maxNesting - 1) p.core members ∧
        entries = (Index.ofList (members.map Member.entry)).entries := by
  rw [parse_eq_ok_iff]
  constructor
  · rintro ⟨p, rfl, hspells⟩
    obtain ⟨members, hmembers, hentries⟩ := spells_object_iff.1 hspells
    exact ⟨p, members, rfl, hmembers, hentries⟩
  · rintro ⟨p, members, rfl, hmembers, hentries⟩
    exact ⟨p, rfl, spells_object_iff.2 ⟨members, hmembers, hentries⟩⟩

/-- If the only service map is an object, the payload holds its members. -/
theorem holdsServices_of_object {p : Padded} {members : List Member} {m : Member}
    {entries : List (Text × Value)} (h : SpellsMembers (maxNesting - 1) p.core members)
    (honly : (members.filter fun m => m.label.key = "serviceMap".toList) = [m])
    (hobject : m.value = .object entries) :
    ∃ services, HoldsServices p.text services ∧ entries = (Index.ofList services).entries := by
  have hmem : m ∈ members := (List.mem_filter.1 (honly ▸ List.mem_singleton.2 rfl)).1
  have hspells : Spells (maxNesting - 2 + 1) m.written.core (.object entries) :=
    hobject ▸ h.1 m hmem
  obtain ⟨inner, hinner, hentries⟩ := spells_object_iff.1 hspells
  exact ⟨inner.map Member.entry, ⟨p, members, inner, m, rfl, h, honly, hinner, rfl⟩, hentries⟩

/-- **The services of a payload.** A payload is accepted as a JSON object exactly if it spells one,
and if its only service map is an object, it holds the members of that. Then

* the services are those that the last values under the keys declare, in the order of the UTF-8
  forms of the keys, and a value declares a service exactly if it has a prefix that is not empty, as
  a field or as the first item of an array;
* what stands under one key decides about one service and leaves the others where they are;
* payloads whose members come in another order under different keys, or are written with other white
  space, have the same services;
* the report of a script with the payload has the last service of each name, and counts the
  principals. -/
theorem services_decode :
    (∀ (payload : Text) (outer : List (Text × Value)),
      Json.parse payload = .ok (.object outer) ↔
        ∃ (p : Padded) (members : List Member), payload = p.text ∧
          SpellsMembers (maxNesting - 1) p.core members ∧
          outer = (Index.ofList (members.map Member.entry)).entries) ∧
    (∀ (p : Padded) (members : List Member) (m : Member) (entries : List (Text × Value)),
      SpellsMembers (maxNesting - 1) p.core members →
      (members.filter fun m => m.label.key = "serviceMap".toList) = [m] →
      m.value = .object entries →
      ∃ services, HoldsServices p.text services ∧ entries = (Index.ofList services).entries) ∧
    (∀ (v : Value) (l : Listed), listed? v = some l ↔
      ∃ lead name, DeclaresService v lead name ∧ lead ≠ [] ∧
        l = ⟨name.getD lead, lead ++ ".amazonaws.com".toList⟩) ∧
    (∀ payload members, HoldsServices payload members →
      ∃ entries : List (Text × Value),
        (entries.Pairwise fun a b => Text.utf8 a.1 < Text.utf8 b.1) ∧
        (∀ key v, (key, v) ∈ entries ↔
          ∃ front back, members = front ++ (key, v) :: back ∧ ∀ e ∈ back, e.1 ≠ key) ∧
        services payload = .ok (entries.filterMap fun e => listed? e.2)) ∧
    (∀ payload payload' members members' key, HoldsServices payload members →
      HoldsServices payload' members' →
      (members.filter fun e => e.1 ≠ key) = (members'.filter fun e => e.1 ≠ key) →
      ∃ lower upper,
        services payload = .ok (lower ++ (serviceUnder members key).toList ++ upper) ∧
        services payload' = .ok (lower ++ (serviceUnder members' key).toList ++ upper)) ∧
    (∀ payload payload' members members', HoldsServices payload members →
      HoldsServices payload' members' →
      (∀ key, (members.filter fun e => e.1 = key) = members'.filter fun e => e.1 = key) →
      services payload = services payload') ∧
    ∀ script reference payload members, payload? script = some payload →
      HoldsServices payload members →
      ∃ (listed : List Listed) (principals : List Text) (found : Report),
        services payload = .ok listed ∧
        report script reference = .ok (found, .policyFound principals.length) ∧
        principals.Nodup ∧
        (∀ principal, principal ∈ principals ↔ ∃ l ∈ listed, l.principal = principal) ∧
        ∀ name mention, found.find? name = some mention ↔
          ∃ front l back, listed = front ++ l :: back ∧ l.name = name ∧
            (∀ l' ∈ back, l'.name ≠ name) ∧ mention = ⟨l.principal, reference⟩ := by
  refine ⟨fun payload outer => parse_object_iff, fun p members m entries => holdsServices_of_object,
    fun v l => listed?_eq_some_iff, fun payload members h => ?_,
    fun payload payload' members members' key h h' hkeys => ?_,
    fun payload payload' members members' h h' hkeys => ?_,
    fun script reference payload members hscript h => ?_⟩
  · refine ⟨(Index.ofList members).entries, (Index.ofList members).ascending.imp Text.utf8_lt_utf8,
      fun key v => ?_, services_eq_ok h⟩
    rw [← Index.find?_eq_some_iff, Index.find?_ofList_eq_some_iff]
  · obtain ⟨lower, upper, hlower, hupper⟩ := neighbours_stay hkeys
    exact ⟨lower, upper, hlower ▸ services_eq_ok h, hupper ▸ services_eq_ok h'⟩
  · rw [services_eq_ok h, services_eq_ok h', ofList_eq_of_filter_eq hkeys]
  · have hservices := services_eq_ok h
    obtain ⟨principals, hnodup, hmem, hcount⟩ := countPrincipals_eq
      ((Index.ofList members).entries.filterMap fun e => listed? e.2)
    refine ⟨_, principals, _, hservices, ?_, hnodup, hmem, fun name mention => find?_reportOf⟩
    simp only [report, hscript, hservices, hcount]

/-! ## Written payloads -/

section Written

variable (gap : Text) (hgap : gap.all isSpace = true)

/-- A service map that is written with the same white space everywhere. -/
def serviceMember (services : List Member) : Member where
  label := ⟨"serviceMap".toList, gap, "serviceMap".toList, gap, hgap, hgap,
    spellsText_of_readString rfl⟩
  value := .object (Index.ofList (services.map Member.entry)).entries
  written := ⟨gap, enclose '{' '}' (services.map Member.text) gap, gap, hgap, hgap⟩

/-- A payload that is written with the same white space everywhere. -/
def writtenPayload (services : List Member) : Text :=
  gap ++ (enclose '{' '}' [(serviceMember gap hgap services).text] gap ++ gap)

theorem holdsServices_written (services : List Member)
    (h : ∀ m ∈ services, Spells (maxNesting - 2) m.written.core m.value) :
    HoldsServices (writtenPayload gap hgap services) (services.map Member.entry) := by
  have hinner : SpellsMembers (maxNesting - 2)
      (enclose '{' '}' (services.map Member.text) gap) services := ⟨h, gap, hgap, rfl⟩
  have hmember := spells_object_iff.2 ⟨services, hinner, rfl⟩
  refine ⟨⟨gap, enclose '{' '}' [(serviceMember gap hgap services).text] gap, gap, hgap, hgap⟩,
    [serviceMember gap hgap services], services, serviceMember gap hgap services, rfl,
    ⟨List.forall_mem_singleton.2 hmember, gap, hgap, rfl⟩, rfl, hinner, rfl⟩

end Written

/-- A member without white space. -/
def plainMember (key : Text) (spells : SpellsText key key) (core : Text) (v : Value) : Member where
  label := ⟨key, [], key, [], rfl, rfl, spells⟩
  value := v
  written := ⟨[], core, [], rfl, rfl⟩

/-- Services in both forms under repeated keys, and one of another shape. -/
def sampleServices : List Member :=
  [plainMember "b".toList (spellsText_of_readString rfl) "[\"s3\",null]".toList
      (.array [.text "s3".toList, .null]),
    plainMember "a".toList (spellsText_of_readString rfl) "\x7b\"StringPrefix\":\"ec2\"\x7d".toList
      (.object [("StringPrefix".toList, .text "ec2".toList)]),
    plainMember "a".toList (spellsText_of_readString rfl)
      "\x7b\"name\":null,\"StringPrefix\":\"sqs\"\x7d".toList
      (.object [("StringPrefix".toList, .text "sqs".toList), ("name".toList, .null)]),
    plainMember "c".toList (spellsText_of_readString rfl) "7".toList (.number (.whole 7))]

theorem sampleServices_spelled :
    ∀ m ∈ sampleServices, Spells (maxNesting - 2) m.written.core m.value := by
  simp only [sampleServices, List.forall_mem_cons]
  refine ⟨spells_of_readValue rfl rfl, spells_of_readValue rfl rfl, spells_of_readValue rfl rfl,
    spells_of_readValue rfl rfl, List.forall_mem_nil _⟩

/-- The sample has two services: of the repeated key the last one, and that of the array. Without
the repeated key it has one of them; in another order and with other white space it has both. -/
theorem services_decode_sample :
    (∃ held, HoldsServices (writtenPayload [] rfl sampleServices) held ∧
      (Index.ofList (sampleServices.map Member.entry)).entries = (Index.ofList held).entries) ∧
    (∃ entries : List (Text × Value),
      ("a".toList, .object [("StringPrefix".toList, .text "sqs".toList), ("name".toList, .null)]) ∈
        entries ∧
      services (writtenPayload [] rfl sampleServices) =
        .ok (entries.filterMap fun e => listed? e.2)) ∧
    (∃ lower upper,
      services (writtenPayload [] rfl sampleServices) =
        .ok (lower ++ [⟨"sqs".toList, "sqs.amazonaws.com".toList⟩] ++ upper) ∧
      services (writtenPayload [] rfl
        (sampleServices.filter fun m => m.label.key ≠ "a".toList)) = .ok (lower ++ [] ++ upper)) ∧
    services (writtenPayload [' '] rfl sampleServices) =
      services (writtenPayload ['\n'] rfl (sampleServices.drop 1 ++ sampleServices.take 1)) ∧
    ∃ found count,
      report (marker ++ writtenPayload [] rfl sampleServices) [] =
        .ok (found, .policyFound count) ∧
      found.find? "s3".toList = some ⟨"s3.amazonaws.com".toList, []⟩ := by
  obtain ⟨-, hheld, -, hservices, hneighbours, horder, hreport⟩ := services_decode
  have hholds := holdsServices_written [] rfl _ sampleServices_spelled
  have hinner : SpellsMembers (maxNesting - 2) (enclose '{' '}' (sampleServices.map Member.text) [])
      sampleServices := ⟨sampleServices_spelled, [], rfl, rfl⟩
  have hmember := spells_object_iff.2 ⟨sampleServices, hinner, rfl⟩
  refine ⟨?_, ?_, ?_, ?_, ?_⟩
  · exact hheld
      ⟨[], enclose '{' '}' [(serviceMember [] rfl sampleServices).text] [], [], rfl, rfl⟩
      [serviceMember [] rfl sampleServices] (serviceMember [] rfl sampleServices) _
      ⟨List.forall_mem_singleton.2 hmember, [], rfl, rfl⟩ rfl rfl
  · obtain ⟨entries, -, hmem, hlisted⟩ := hservices _ _ hholds
    refine ⟨entries, (hmem _ _).2 ⟨(sampleServices.take 2).map Member.entry,
      (sampleServices.drop 3).map Member.entry, rfl, ?_⟩, hlisted⟩
    simp [sampleServices, plainMember, Member.entry]
  · have hwithout := holdsServices_written [] rfl
      (sampleServices.filter fun m => m.label.key ≠ "a".toList)
      fun m hm => sampleServices_spelled m (List.mem_filter.1 hm).1
    exact hneighbours _ _ _ _ "a".toList hholds hwithout rfl
  · have hfirst := holdsServices_written [' '] rfl _ sampleServices_spelled
    have hsecond := holdsServices_written ['\n'] rfl
      (sampleServices.drop 1 ++ sampleServices.take 1) fun m hm => by
        rcases List.mem_append.1 hm with hm | hm
        · exact sampleServices_spelled m (List.mem_of_mem_drop hm)
        · exact sampleServices_spelled m (List.mem_of_mem_take hm)
    refine horder _ _ _ _ hfirst hsecond fun key => ?_
    by_cases hb : "b".toList = key
    · subst hb
      rfl
    · have hnone : ((sampleServices.take 1).map Member.entry).filter (fun e => e.1 = key) = [] :=
        List.filter_cons_of_neg (mt of_decide_eq_true hb)
      rw [List.map_append, List.filter_append, hnone, List.append_nil]
      exact List.filter_cons_of_neg (mt of_decide_eq_true hb)
  · have hscript : payload? (marker ++ writtenPayload [] rfl sampleServices) =
        some (writtenPayload [] rfl sampleServices) := by decide +kernel
    obtain ⟨listed, principals, found, hlisted, hfound, -, -, hname⟩ :=
      hreport _ [] _ _ hscript hholds
    rw [services_eq_ok hholds] at hlisted
    obtain rfl := Except.ok.inj hlisted
    refine ⟨found, principals.length, hfound, (hname _ _).2 ?_⟩
    exact ⟨[⟨"sqs".toList, "sqs.amazonaws.com".toList⟩],
      ⟨"s3".toList, "s3.amazonaws.com".toList⟩, [], rfl, rfl, List.forall_mem_nil _, rfl⟩

end Roster.Policy
