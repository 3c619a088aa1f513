import Roster.Policy
import Roster.Proofs.Text.Cutting

/-!
# The payload is cut out where it was embedded

A script assigns its payload behind a marker. The marker ends with a character that it has nowhere
else, so it cannot overlap itself, and it has no brace, so it cannot reach across the end of a
payload. Therefore no text around a payload can shift the place where it is cut out.

**Theorem (`behindMarker?_append`).** Behind the first marker stands everything up to the next one.

**Theorem (`embedded_payload_is_cut_out`).** A payload that ends with a brace is cut out unchanged,
whatever stands around it. There is a payload exactly if there is a marker, and every payload ends
with a brace and is free of the marker.
-/

namespace Roster.Policy

open Text (Unbordered)

/-! ## The marker -/

theorem marker_unbordered : Unbordered marker := by
  have hbody : '=' ∉ "app.PolicyEditorConfig".toList := by decide
  exact Text.unbordered_of_last hbody

theorem marker_ne_nil : marker ≠ [] := by decide

theorem brace_not_mem_marker : '}' ∉ marker := by decide

/-! ## The segment behind the marker -/

/-- What may stand behind a segment: nothing, or the next marker and anything. -/
def EndsSegment (tail : Text) : Prop := tail = [] ∨ marker <+: tail

theorem behindMarker?_eq_none_iff {script : Text} :
    behindMarker? script = none ↔ ¬ marker <:+: script := by
  rw [behindMarker?, Option.map_eq_none_iff, Text.cutAt?_eq_none_iff]

/-- **The segment behind the first marker** ends at the next one, or with the script. -/
theorem behindMarker?_append {front segment tail : Text} (hfront : ¬ marker <:+: front)
    (hsegment : ¬ marker <:+: segment) (htail : EndsSegment tail) :
    behindMarker? (front ++ marker ++ (segment ++ tail)) = some segment := by
  rw [behindMarker?, Text.cutAt?_append marker_unbordered hfront, Option.map_some]
  rcases htail with rfl | ⟨rest, rfl⟩
  · have hlast : Text.cutAt? marker segment = none := Text.cutAt?_eq_none_iff.2 hsegment
    simp [hlast]
  · have hnext := Text.cutAt?_append marker_unbordered hsegment rest
    rw [List.append_assoc] at hnext
    simp [hnext]

theorem not_infix_of_behindMarker? {script segment : Text}
    (h : behindMarker? script = some segment) : ¬ marker <:+: segment := by
  obtain ⟨⟨before, rest⟩, -, hrest⟩ := Option.map_eq_some_iff.1 h
  simp only at hrest
  cases hnext : Text.cutAt? marker rest with
  | none =>
    rw [hnext] at hrest
    obtain rfl : rest = segment := hrest
    exact Text.cutAt?_eq_none_iff.1 hnext
  | some cut =>
    obtain ⟨piece, tail⟩ := cut
    rw [hnext] at hrest
    obtain rfl : piece = segment := hrest
    exact Text.not_infix_of_cutAt? hnext marker_ne_nil

/-! ## The last brace -/

theorem closeObject_append {front back : Text} (hback : '}' ∉ back) :
    closeObject (front ++ '}' :: back) = front ++ ['}'] := by
  have hkept : Text.dropEndWhile (· ≠ '}') (front ++ '}' :: back) = front ++ ['}'] := by
    refine Text.dropEndWhile_append (by simp) fun d hd => ?_
    have hne : d ≠ '}' := fun heq => hback (heq ▸ hd)
    simpa using hne
  rw [closeObject, hkept]
  simp

theorem closeObject_of_not_mem {t : Text} (h : '}' ∉ t) : closeObject t = t ++ ['}'] := by
  have hkept : Text.dropEndWhile (· ≠ '}') t = [] := by
    rw [Text.dropEndWhile_eq, List.rdropWhile_eq_nil_iff]
    intro d hd
    have hne : d ≠ '}' := fun heq => h (heq ▸ hd)
    simpa using hne
  rw [closeObject, hkept]
  rfl

/-- What is closed ends with a brace, and what stands in front of the brace is a start of the
text. -/
theorem closeObject_eq (t : Text) : ∃ front, closeObject t = front ++ ['}'] ∧ front <+: t := by
  by_cases hbrace : '}' ∈ t
  · obtain ⟨front, back, rfl, hback⟩ := Text.exists_last_of_mem hbrace
    exact ⟨front, closeObject_append hback, List.prefix_append _ _⟩
  · exact ⟨t, closeObject_of_not_mem hbrace, List.prefix_rfl⟩

/-! ## Payloads -/

theorem payload?_eq_none_iff {script : Text} :
    payload? script = none ↔ ¬ marker <:+: script := by
  rw [payload?, Option.map_eq_none_iff, behindMarker?_eq_none_iff]

/-- A script has no report for want of a payload exactly if it has no marker. -/
theorem report_eq_noPayload_iff {script reference : Text} :
    report script reference = .error .noPayload ↔ ¬ marker <:+: script := by
  rw [← payload?_eq_none_iff, report]
  cases payload? script with
  | none => exact ⟨fun _ => rfl, fun _ => rfl⟩
  | some payload =>
    cases hservices : services payload with
    | error e => simp [hservices]
    | ok listed => simp [hservices]

theorem payload?_closed {script payload : Text} (h : payload? script = some payload) :
    payload.getLast? = some '}' ∧ ¬ marker <:+: payload := by
  obtain ⟨segment, hsegment, rfl⟩ := Option.map_eq_some_iff.1 h
  obtain ⟨front, hclosed, hfront⟩ := closeObject_eq segment
  rw [hclosed]
  refine ⟨by simp, fun hinside => ?_⟩
  rcases Text.infix_of_infix_append brace_not_mem_marker hinside with hmarker | hmarker
  · exact not_infix_of_behindMarker? hsegment (hmarker.trans hfront.isInfix)
  · exact marker_ne_nil (List.infix_nil.1 hmarker)

/-- **A payload is cut out where it was embedded.** It may stand behind any text without the marker
and in front of any text without the marker and without a brace, at the end of which the script ends
or another marker begins whatever follows. A segment without a brace is given one. There is no
payload exactly if there is no marker, and this is the error that is reported then. Every payload
ends with a brace and is free of the marker. -/
theorem embedded_payload_is_cut_out :
    (∀ front payload gap tail : Text, ¬ marker <:+: front →
      payload.getLast? = some '}' → ¬ marker <:+: payload →
      ¬ marker <:+: gap → '}' ∉ gap → EndsSegment tail →
      payload? (front ++ marker ++ payload ++ gap ++ tail) = some payload) ∧
    (∀ front segment tail : Text, ¬ marker <:+: front →
      ¬ marker <:+: segment → '}' ∉ segment → EndsSegment tail →
      payload? (front ++ marker ++ segment ++ tail) = some (segment ++ ['}'])) ∧
    (∀ script, payload? script = none ↔ ¬ marker <:+: script) ∧
    (∀ script reference, report script reference = .error .noPayload ↔ ¬ marker <:+: script) ∧
    ∀ script payload, payload? script = some payload →
      payload.getLast? = some '}' ∧ ¬ marker <:+: payload := by
  refine ⟨fun front payload gap tail hfront hlast hpayload hgap hbrace htail => ?_,
    fun front segment tail hfront hsegment hbrace htail => ?_,
    fun script => payload?_eq_none_iff, fun script reference => report_eq_noPayload_iff,
    fun script payload => payload?_closed⟩
  · obtain ⟨inner, rfl⟩ := List.getLast?_eq_some_iff.1 hlast
    have hsegment : ¬ marker <:+: inner ++ '}' :: gap := by
      intro hinside
      rcases Text.infix_of_infix_append brace_not_mem_marker hinside with hmarker | hmarker
      · exact hpayload (hmarker.trans (List.prefix_append inner _).isInfix)
      · exact hgap hmarker
    have hcut := behindMarker?_append hfront hsegment htail
    have hscript : front ++ marker ++ (inner ++ ['}']) ++ gap ++ tail =
        front ++ marker ++ (inner ++ '}' :: gap ++ tail) := by simp
    rw [hscript, payload?, hcut, Option.map_some, closeObject_append hbrace]
  · have hcut := behindMarker?_append hfront hsegment htail
    rw [List.append_assoc, payload?, hcut, Option.map_some, closeObject_of_not_mem hbrace]

/-- The start of a marker in front, a brace behind and another marker do not shift the cut. -/
theorem embedded_payload_is_cut_out_shadowed :
    payload? ("app.Polic".toList ++ marker ++ "\x7b\x7d\x7d".toList ++ ";app.".toList ++
      (marker ++ "\x7d".toList)) = some "\x7b\x7d\x7d".toList ∧
    payload? ([] ++ marker ++ "\x7b".toList ++ []) = some "\x7b\x7d".toList ∧
    ¬ marker <:+: "\x7b\x7d".toList := by
  obtain ⟨hwhole, hopen, -, -, hclosed⟩ := embedded_payload_is_cut_out
  have hbrace : payload? ([] ++ marker ++ "\x7b".toList ++ []) = some "\x7b\x7d".toList :=
    hopen [] _ [] (by decide) (by decide) (by decide) (.inl rfl)
  refine ⟨?_, hbrace, (hclosed _ _ hbrace).2⟩
  have hfront : ¬ marker <:+: "app.Polic".toList := by decide
  have hpayload : ¬ marker <:+: "\x7b\x7d\x7d".toList := by decide
  have hgap : ¬ marker <:+: ";app.".toList := by decide
  exact hwhole _ _ _ _ hfront rfl hpayload hgap (by decide) (.inr (List.prefix_append _ _))

end Roster.Policy
