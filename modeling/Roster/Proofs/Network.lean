import Roster.Config
import Roster.Http.Fetch

/-!
# Networks that do not change

What a network answers may depend on how often it has been asked. Where no server looks at that
count, what comes of fetching a URL does not depend on the requests before.

**Theorem (`steady_of_constant`).** On a network that never looks at the count every URL gives the
same whenever it is fetched. A site with one reply for each page is such a network
(`Site.steady_of_single`); the small site below is one.
-/

namespace Roster

namespace Http

/-- Every URL gives the same whenever it is fetched. -/
def Steady (net : Network) (page : Text → Except Error Text) : Prop :=
  ∀ v url, (fetch net v url).1 = page url

variable {net : Network}

theorem get_of_constant (h : ∀ u before before', net u before = net u before') (v v' : Visits)
    (u : Url) : ∃ reply w w', get net v u = (reply, w) ∧ get net v' u = (reply, w') := by
  have hsame := h u.withoutFragment (v.count u.withoutFragment.toText)
    (v'.count u.withoutFragment.toText)
  simp only [get, hsame]
  cases net u.withoutFragment (v'.count u.withoutFragment.toText) with
  | unreached => exact ⟨_, _, _, rfl, rfl⟩
  | dropped => exact ⟨_, _, _, rfl, rfl⟩
  | answered r => exact ⟨_, _, _, rfl, rfl⟩

theorem follow_of_constant (h : ∀ u before before', net u before = net u before') (first : Url)
    (left : Nat) (v v' : Visits) (u : Url) :
    (follow net first left v u).1 = (follow net first left v' u).1 := by
  induction left generalizing v v' u with
  | zero =>
    obtain ⟨reply, w, w', hv, hv'⟩ := get_of_constant h v v' u
    rw [follow, follow, hv, hv']
    cases reply with
    | unreached => rfl
    | dropped => rfl
    | answered r => cases hnext : r.target? u <;> simp only [hnext]
  | succ left ih =>
    obtain ⟨reply, w, w', hv, hv'⟩ := get_of_constant h v v' u
    rw [follow, follow, hv, hv']
    cases reply with
    | unreached => rfl
    | dropped => rfl
    | answered r =>
      cases hnext : r.target? u with
      | none => simp only [hnext]
      | some next =>
        simp only [hnext]
        split
        · exact ih w w' next
        · rfl

/-- A network that never looks at the count is steady. -/
theorem steady_of_constant (h : ∀ u before before', net u before = net u before') :
    Steady net fun url => (fetch net Index.empty url).1 := by
  intro v url
  simp only [fetch]
  cases target url with
  | error failure => rfl
  | ok u =>
    have hfollow := follow_of_constant h u maxRedirects v Index.empty u
    rcases hv : follow net u maxRedirects v u with ⟨answer, w⟩
    rcases hv' : follow net u maxRedirects Index.empty u with ⟨answer', w'⟩
    rw [hv, hv'] at hfollow
    obtain rfl : answer = answer' := hfollow
    simp only [hv, hv']
    cases answer with
    | error failure => rfl
    | ok r => rfl

theorem Site.network_of_single {s : Site} (h : ∀ e ∈ s.pages, e.2.length = 1) (u : Url)
    (before before' : Nat) : s.network u before = s.network u before' := by
  rw [Site.network, Site.network]
  split
  · rfl
  · cases hreplies : s.pages.lookup u.toText with
    | none => rfl
    | some replies =>
      obtain ⟨front, back, hpages, -⟩ := List.lookup_eq_some_iff.1 hreplies
      have hmem : (u.toText, replies) ∈ s.pages := by
        rw [hpages]
        exact List.mem_append_right _ List.mem_cons_self
      obtain ⟨reply, rfl⟩ := List.length_eq_one_iff.1 (h _ hmem)
      have hreply (n : Nat) : replyOf [reply] n = reply := by
        cases n <;> rfl
      rw [Option.getD_some, hreply, hreply]

theorem Site.steady_of_single {s : Site} (h : ∀ e ∈ s.pages, e.2.length = 1) :
    Steady s.network fun url => (fetch s.network Index.empty url).1 :=
  steady_of_constant (Site.network_of_single h)

end Http

/-! ## A small site -/

namespace Run

/-- A successful answer with a text of ASCII. -/
def smallAnswer (t : String) : Http.Reply :=
  .answered { status := 200, body := t.toList.map Char.toNat }

/-- A site that lists one service and whose policy generator declares another one. -/
def smallSite : Http.Site where
  pages := [
    ("http://[::1]/s".toList, [smallAnswer ("<table><tr><tr><td>AWS Lambda<td><td><td><td><td><td>" ++
      "<a href=l>Yes</a></table>")]),
    ("http://[::1]/l".toList, [smallAnswer "<p>It trusts the lambda.amazonaws.com service."]),
    ("http://[::1]/p".toList, [smallAnswer ("app.PolicyEditorConfig=" ++
      "\x7b\"serviceMap\":\x7b\"a\":\x7b\"StringPrefix\":\"q\"\x7d\x7d\x7d")])]

/-- The settings of a run on that site. -/
def smallConfig : Config := { Config.default with
  docsBase := "http://[::1]/".toList
  servicesPage := "s".toList
  policyUrl := "http://[::1]/p".toList }

end Run

end Roster
