import Roster.Proofs.Page
import Roster.Proofs.Principal.Search
import Roster.Proofs.Text.Cutting

/-!
# The paragraph that decides

A paragraph is searched for a principal only if it holds the hint, which is written in small
letters. The search itself ignores case, so the hint is more than a shortcut: a principal whose
ending is written in another case is passed over.

* `Mentions p found` says that the search finds the principal in the paragraph and that the hint is
  there too.
* `Document.listed` lists the elements with a name in document order, and `Document.unlisted` those
  inside a body that a frameset has replaced, which are searched still.
* `Document.KeepsFirst` says that of the elements with a property the one that stands first was made
  first. A document is searched in the order in which its elements were made.

**Theorem (`KeepsFirst.findSome?_elements`).** If of the elements that answer a question the first
one was made first, the answer of the document is that of this element, wherever the others are.

**Theorem (`mentions_or_other_ending`).** The hint costs no principal that ends in small letters.

**Theorem (`first_mention_decides`).** The principal of a page is that of the first paragraph that
mentions one. White space at the ends of a paragraph does not matter, and neither do paragraphs with
the hint in which no principal is found.

Not on every page was this paragraph made first (`capitals_and_moves_matter`): the parser moves what
may not stand in a table in front of it, and so in front of paragraphs that were made before.
-/

namespace Roster

/-! ## Document order -/

namespace Html

theorem Node.elementsOf_append (front back : List Node) :
    Node.elementsOf (front ++ back) = Node.elementsOf front ++ Node.elementsOf back := by
  induction front with
  | nil => rfl
  | cons n front ih =>
    rw [List.cons_append, Node.elementsOf, Node.elementsOf, ih, List.append_assoc]

namespace Document

variable {d : Document} {name : String}

/-- The elements with a name in document order: each before those inside it, and these from start to
end. -/
def listed (d : Document) (name : String) : List Node :=
  (Node.elementsOf d.content).filter (Node.isNamed name)

/-- The elements with a name inside a body that a frameset has replaced. -/
def unlisted (d : Document) (name : String) : List Node :=
  (Node.elementsOf d.replaced).filter (Node.isNamed name)

/-- Of the elements with a name that have a property, the one that stands first in the document was
made first, also before those inside a replaced body. -/
def KeepsFirst (d : Document) (name : String) (P : Node → Bool) : Prop :=
  ∀ n ∈ d.listed name ++ d.unlisted name, P n = true →
    ∃ first ∈ (d.listed name).find? P, first.number ≤ n.number

instance (d : Document) (name : String) (P : Node → Bool) : Decidable (d.KeepsFirst name P) :=
  decidable_of_iff (∀ n ∈ d.listed name ++ d.unlisted name, P n = true →
      ((d.listed name).find? P).any (·.number ≤ n.number))
    (by simp only [KeepsFirst, Option.any_eq_true, decide_eq_true_eq, Option.mem_def])

theorem elements_eq (d : Document) (name : String) :
    d.elements name = (d.listed name ++ d.unlisted name).mergeSort fun a b =>
      a.number ≤ b.number := by
  rw [elements, Node.elementsOf_append, List.filter_append, listed, unlisted]

theorem mem_elements_iff {n : Node} :
    n ∈ d.elements name ↔ n ∈ d.listed name ∨ n ∈ d.unlisted name := by
  rw [elements_eq, List.mem_mergeSort, List.mem_append]

variable {α : Type} {f : Node → Option α}

/-- Sorted elements answer as the first of those that answer, if none of these was made before. -/
theorem findSome?_mergeSort {front back : List Node} {first : Node} {found : α}
    (hfront : ∀ n ∈ front, f n = none) (hfirst : f first = some found)
    (hback : ∀ n ∈ back, (f n).isSome → first.number ≤ n.number) :
    ((front ++ first :: back).mergeSort fun a b => a.number ≤ b.number).findSome? f =
      some found := by
  have htrans : ∀ a b c : Node, decide (a.number ≤ b.number) = true →
      decide (b.number ≤ c.number) = true → decide (a.number ≤ c.number) = true := by
    intro a b c hab hbc
    exact decide_eq_true (Nat.le_trans (of_decide_eq_true hab) (of_decide_eq_true hbc))
  have htotal : ∀ a b : Node,
      (decide (a.number ≤ b.number) || decide (b.number ≤ a.number)) = true := by
    intro a b
    rw [Bool.or_eq_true, decide_eq_true_eq, decide_eq_true_eq]
    exact Nat.le_total _ _
  -- The sort is stable, so an element is put in where those made later begin.
  induction front with
  | nil =>
    obtain ⟨lead, rest, hsorted, hrest, hlead⟩ := List.mergeSort_cons htrans htotal first back
    have hnone : lead.findSome? f = none := by
      rw [List.findSome?_eq_none_iff]
      intro n hn
      by_contra hne
      have hmem : n ∈ back := by
        rw [← List.mem_mergeSort, hrest]
        exact List.mem_append_left _ hn
      have hle := hback n hmem (Option.isSome_iff_ne_none.2 hne)
      have hlt := hlead n hn
      simp [hle] at hlt
    rw [List.nil_append, hsorted, List.findSome?_append, hnone, List.findSome?_cons, hfirst]
    rfl
  | cons n front ih =>
    obtain ⟨lead, rest, hsorted, hrest, -⟩ :=
      List.mergeSort_cons htrans htotal n (front ++ first :: back)
    have hn : f n = none := hfront n List.mem_cons_self
    rw [List.cons_append, hsorted, List.findSome?_append, List.findSome?_cons, hn,
      ← List.findSome?_append, ← hrest]
    apply ih
    intro m hm
    exact hfront m (List.mem_cons_of_mem _ hm)

/-- **A whole document answers as the element does that stands first of those that answer,** if that
one was made first. -/
theorem KeepsFirst.findSome?_elements (h : d.KeepsFirst name fun n => (f n).isSome) :
    (d.elements name).findSome? f = (d.listed name).findSome? f := by
  cases hlisted : (d.listed name).findSome? f with
  | none =>
    rw [List.findSome?_eq_none_iff] at hlisted ⊢
    intro n hn
    by_contra hne
    obtain ⟨first, hfirst, -⟩ :=
      h n (List.mem_append.2 (mem_elements_iff.1 hn)) (Option.isSome_iff_ne_none.2 hne)
    have hsome := List.find?_some (Option.mem_def.1 hfirst)
    simp [hlisted first (List.mem_of_find?_eq_some hfirst)] at hsome
  | some found =>
    obtain ⟨front, first, back, hsplit, hfirst, hfront⟩ := List.findSome?_eq_some_iff.1 hlisted
    have hfind : (d.listed name).find? (fun n => (f n).isSome) = some first := by
      apply List.find?_eq_some_iff_append.2
      refine ⟨Option.isSome_of_mem hfirst, front, back, hsplit, ?_⟩
      intro n hn
      simp [hfront n hn]
    -- Those in front of the first that answers may be sorted anywhere, since they answer nothing.
    rw [elements_eq, hsplit, List.append_assoc, List.cons_append]
    apply findSome?_mergeSort hfront hfirst
    intro n hn hsome
    have hmem : n ∈ d.listed name ++ d.unlisted name := by
      rw [hsplit, List.append_assoc, List.cons_append]
      exact List.mem_append_right _ (List.mem_cons_of_mem _ hn)
    obtain ⟨first', hfirst', hle⟩ := h n hmem hsome
    obtain rfl := Option.some.inj (hfind.symm.trans hfirst')
    exact hle

end Document

end Html

/-! ## Paragraphs that mention a principal -/

namespace Page

/-- The search finds the principal in the paragraph, and the hint is there too. -/
def Mentions (p : Html.Node) (found : Text) : Prop :=
  Principal.match? p.plain = some found ∧ hint <:+: p.plain

/-- **A paragraph gives the principal that it mentions,** whatever white space is at its ends. -/
theorem ofParagraph?_eq_some_iff {p : Html.Node} {found : Text} :
    ofParagraph? p.plain = some found ↔ Mentions p found := by
  rw [ofParagraph?, Principal.match?_trim, Mentions, ← Text.occursIn_iff]
  split_ifs with hhint <;> simp [hhint]

theorem ofParagraph?_eq_none_iff {p : Html.Node} :
    ofParagraph? p.plain = none ↔ ∀ found, ¬ Mentions p found := by
  simp only [Option.eq_none_iff_forall_ne_some, ne_eq, ofParagraph?_eq_some_iff]

theorem isSome_ofParagraph?_iff {p : Html.Node} :
    (ofParagraph? p.plain).isSome ↔ ∃ found, Mentions p found := by
  simp only [Option.isSome_iff_exists, ofParagraph?_eq_some_iff]

instance (p : Html.Node) : Decidable (∃ found, Mentions p found) :=
  decidable_of_iff _ isSome_ofParagraph?_iff

/-- Of the paragraphs that mention a principal the one that stands first was made first. -/
def KeepsFirstMention (d : Html.Document) : Prop :=
  d.KeepsFirst "p" fun p => ∃ found, Mentions p found

instance (d : Html.Document) : Decidable (KeepsFirstMention d) :=
  inferInstanceAs (Decidable (d.KeepsFirst _ _))

theorem hint_in_suffix : hint <:+: Principal.suffix := by decide

theorem mentions_of_small_ending {p : Html.Node} {found : Text}
    (h : Principal.match? p.plain = some found) (hending : Principal.suffix <:+ found) :
    Mentions p found :=
  ⟨h, (hint_in_suffix.trans hending.isInfix).trans (Principal.match?_inside h)⟩

theorem mentions_or_other_ending {p : Html.Node} {found : Text}
    (h : Principal.match? p.plain = some found) : Mentions p found ∨
      ∃ ending, ending <:+ found ∧ ending.map Principal.fold = Principal.suffix ∧
        ending ≠ Principal.suffix := by
  obtain ⟨ending, hending, hfold⟩ := Principal.exists_ending h
  by_cases hsmall : ending = Principal.suffix
  · exact .inl (mentions_of_small_ending h (hsmall ▸ hending))
  · exact .inr ⟨ending, hending, hfold, hsmall⟩

theorem ofParagraph?_of_small_endings {p : Html.Node}
    (h : ∀ found, Principal.match? p.plain = some found → Principal.suffix <:+ found) :
    ofParagraph? p.plain = Principal.match? p.plain := by
  cases hfound : Principal.match? p.plain with
  | none =>
    apply ofParagraph?_eq_none_iff.2
    intro found hmentions
    exact nomatch hfound.symm.trans hmentions.1
  | some found =>
    exact ofParagraph?_eq_some_iff.2 (mentions_of_small_ending hfound (h found hfound))

/-! ## Pages -/

/-- Every paragraph that is searched may decide, also one of a replaced body. -/
theorem ofDocument?_eq_none_iff {d : Html.Document} : ofDocument? d = none ↔
    ∀ p ∈ d.listed "p" ++ d.unlisted "p", ∀ found, ¬ Mentions p found := by
  simp only [ofDocument?, List.findSome?_eq_none_iff, ofParagraph?_eq_none_iff,
    Html.Document.mem_elements_iff, List.mem_append]

theorem exists_mention {d : Html.Document} {found : Text} (h : ofDocument? d = some found) :
    ∃ p ∈ d.listed "p" ++ d.unlisted "p", Mentions p found := by
  obtain ⟨p, hp, hfound⟩ := List.exists_of_findSome?_eq_some h
  exact ⟨p, List.mem_append.2 (Html.Document.mem_elements_iff.1 hp),
    ofParagraph?_eq_some_iff.1 hfound⟩

theorem ofDocument?_of_first {d : Html.Document} (h : KeepsFirstMention d) :
    ofDocument? d = (d.listed "p").findSome? fun p => ofParagraph? p.plain := by
  apply Html.Document.KeepsFirst.findSome?_elements
  simpa only [KeepsFirstMention, ← isSome_ofParagraph?_iff, Bool.decide_eq_true] using h

/-- **The first paragraph that mentions a principal decides.** A page with such a paragraph has a
principal. Unless a paragraph of a replaced body mentions one, it is mentioned by a paragraph of the
page. If the first of these was made first, the principal is the one that it mentions, whatever
white space and whatever other paragraphs there are. The hint only passes over principals whose
ending is written in another case; on a page without any of these it might be left out. -/
theorem first_mention_decides (html : Text) :
    (∀ p ∈ (Html.parse html).listed "p", ∀ found, Mentions p found → (principal? html).isSome) ∧
    ((∀ p ∈ (Html.parse html).unlisted "p", ∀ found, ¬ Mentions p found) →
      ∀ found, principal? html = some found →
        ∃ p ∈ (Html.parse html).listed "p", Mentions p found) ∧
    (KeepsFirstMention (Html.parse html) → ∀ found, principal? html = some found ↔
      ∃ front p back, (Html.parse html).listed "p" = front ++ p :: back ∧ Mentions p found ∧
        ∀ q ∈ front, ∀ other, ¬ Mentions q other) ∧
    (∀ p found, Principal.match? p.plain = some found → Mentions p found ∨
      ∃ ending, ending <:+ found ∧ ending.map Principal.fold = Principal.suffix ∧
        ending ≠ Principal.suffix) ∧
    (KeepsFirstMention (Html.parse html) →
      (∀ p ∈ (Html.parse html).listed "p", ∀ found, Principal.match? p.plain = some found →
        Principal.suffix <:+ found) →
      principal? html =
        ((Html.parse html).listed "p").findSome? fun p => Principal.match? p.plain) := by
  refine ⟨?_, ?_, ?_, fun p found => mentions_or_other_ending, ?_⟩
  · intro p hp found hmentions
    rw [Option.isSome_iff_ne_none]
    intro hnone
    exact ofDocument?_eq_none_iff.1 hnone p (List.mem_append_left _ hp) found hmentions
  · intro hunlisted found h
    obtain ⟨p, hp, hmentions⟩ := exists_mention h
    rcases List.mem_append.1 hp with hp | hp
    · exact ⟨p, hp, hmentions⟩
    · exact absurd hmentions (hunlisted p hp found)
  · intro hfirst found
    simp only [principal?, ofDocument?_of_first hfirst, List.findSome?_eq_some_iff,
      ofParagraph?_eq_some_iff, ofParagraph?_eq_none_iff]
  · intro hfirst hsmall
    have hsame : ∀ p ∈ (Html.parse html).listed "p",
        ofParagraph? p.plain = Principal.match? p.plain := by
      intro p hp
      exact ofParagraph?_of_small_endings (hsmall p hp)
    rw [principal?, ofDocument?_of_first hfirst, ← List.head?_filterMap, ← List.head?_filterMap,
      List.filterMap_congr hsame]

/-! ## Pages on which the conditions matter -/

/-- A page on which two paragraphs are passed over before one mentions its principal, and on which
a paragraph behind that one is moved. -/
def passingPage : Text := ("<p>amazonaws.com<p>a.AmazonAWS.com<p> b.amazonaws.com </p>" ++
  "<table><td><p>c.amazonaws.com<tr><p>d.amazonaws.com").toList

/-- A page on which no principal is written with capitals. -/
def smallPage : Text := "<p>amazonaws.com<p>b.amazonaws.com".toList

/-- Neither the hint alone nor a principal with another ending stops the search, white space around
a paragraph does not hide its principal, and what becomes of later paragraphs is all the same. -/
theorem first_mention_decides_third :
    KeepsFirstMention (Html.parse passingPage) ∧
    principal? passingPage = some "b.amazonaws.com".toList ∧
    principal? smallPage =
      ((Html.parse smallPage).listed "p").findSome? fun p => Principal.match? p.plain := by
  have hkeeps : KeepsFirstMention (Html.parse passingPage) := by decide +kernel
  have htexts : ((Html.parse passingPage).listed "p").map Html.Node.plain =
      ["amazonaws.com".toList, "a.AmazonAWS.com".toList] ++ " b.amazonaws.com ".toList ::
        ["d.amazonaws.com".toList, "c.amazonaws.com".toList] := by
    decide +kernel
  have hpassed : ∀ t ∈ ["amazonaws.com".toList, "a.AmazonAWS.com".toList],
      ¬ ((Principal.match? t).isSome ∧ hint <:+: t) := by decide +kernel
  obtain ⟨front, behind, hsplit, hfront, hbehind⟩ := List.map_eq_append_iff.1 htexts
  obtain ⟨p, back, rfl, hp, -⟩ := List.map_eq_cons_iff.1 hbehind
  obtain ⟨-, -, hfirst, -⟩ := first_mention_decides passingPage
  obtain ⟨-, -, -, -, hsmall⟩ := first_mention_decides smallPage
  refine ⟨hkeeps, (hfirst hkeeps _).2 ⟨front, p, back, hsplit, ?_, ?_⟩, ?_⟩
  · rw [Mentions, hp]
    decide +kernel
  · intro q hq other hother
    have htext := hfront ▸ List.mem_map_of_mem hq
    exact hpassed q.plain htext ⟨Option.isSome_of_mem hother.1, hother.2⟩
  · have hendings : ∀ p ∈ (Html.parse smallPage).listed "p",
        ∀ found ∈ Principal.match? p.plain, Principal.suffix <:+ found := by decide +kernel
    exact hsmall (by decide +kernel) hendings

/-- A page whose only principal is written with capitals. -/
def capitalPage : Text := "<p>Lambda.AmazonAWS.com</p>".toList

/-- A page with a paragraph that is moved in front of the table. -/
def movedPage : Text := "<table><td><p>a.amazonaws.com<tr><p>b.amazonaws.com".toList

/-- A page with a paragraph in a body that a frameset replaces. -/
def framesetPage : Text := "<p><script>a.amazonaws.com</script><frameset>".toList

/-- **The case of the ending counts, and so does the order in which paragraphs were made:** a
principal with capitals is passed over, a paragraph that was moved is found too late, and one that
was replaced is found still. -/
theorem capitals_and_moves_matter :
    (principal? capitalPage = none ∧
      (((Html.parse capitalPage).listed "p").findSome? fun p => Principal.match? p.plain) =
        some "Lambda.AmazonAWS.com".toList) ∧
    (principal? movedPage = some "a.amazonaws.com".toList ∧
      (((Html.parse movedPage).listed "p").findSome? fun p => Principal.match? p.plain) =
        some "b.amazonaws.com".toList) ∧
    (principal? framesetPage = some "a.amazonaws.com".toList ∧
      (((Html.parse framesetPage).listed "p").findSome? fun p => Principal.match? p.plain) =
        none) := by
  refine ⟨by decide +kernel, ⟨?_, by decide +kernel⟩, by decide +kernel⟩
  -- Sorting does not evaluate, so the two paragraphs are sorted by hand.
  have hlisted : ((Html.parse movedPage).listed "p").map (fun p => (p.number, p.plain)) =
      [(11, "b.amazonaws.com".toList), (8, "a.amazonaws.com".toList)] := by decide +kernel
  have hunlisted : ((Html.parse movedPage).unlisted "p").isEmpty = true := by decide +kernel
  obtain ⟨q, rest, hsplit, hq, hrest⟩ := List.map_eq_cons_iff.1 hlisted
  obtain ⟨p, rest, rfl, hp, hnil⟩ := List.map_eq_cons_iff.1 hrest
  obtain rfl := List.map_eq_nil_iff.1 hnil
  obtain ⟨hqnumber, -⟩ := Prod.mk.inj hq
  obtain ⟨hpnumber, hptext⟩ := Prod.mk.inj hp
  have hsorted : (Html.parse movedPage).elements "p" = [p, q] := by
    rw [Html.Document.elements_eq, hsplit, List.isEmpty_iff.1 hunlisted]
    simp [List.mergeSort, hqnumber, hpnumber]
  have hfirst : ofParagraph? p.plain = some "a.amazonaws.com".toList := by
    rw [hptext]
    decide +kernel
  rw [principal?, ofDocument?, hsorted, List.findSome?_cons, hfirst]

end Page

end Roster
