import Roster.Html.Parse
import Roster.Principal
import Roster.Text.Lowercase
import Roster.Url.Parse

/-!
# Services

The documentation lists the services by name and has a page for each of them.

* A service is listed under names such as "AWS Lambda" or "Amazon S3". The key of a name is what
  makes two spellings of it equal (`Name.key`): its lower-case ASCII letters and digits behind at
  most one vendor word.
* The first table of a page lists the services, one in each row below its first one
  (`Listing.ofPage`). A row counts if its seventh cell says "yes" in a link that leads somewhere
  (`Listing.service?`). A service that is listed already keeps its position (`Listing.add`).
* The page of a service mentions its principal in one of its paragraphs (`Page.principal?`).
-/

namespace Roster

/-! ## Names -/

namespace Name

/-- The words that name the vendor, in the order in which they are tried. -/
def vendors : List Text := ["amazon".toList, "aws".toList]

/-- What follows `word` and the white space behind it; the white space may not be missing. -/
def afterWord? (word name : Text) : Option Text :=
  match Text.after? word name with
  | some (c :: rest) => if Text.isBlank c then some (Text.trimStart rest) else none
  | _ => none

/-- The name without one leading vendor word. -/
def dropVendor (name : Text) : Text :=
  (vendors.findSome? fun vendor => afterWord? vendor name).getD name

/-- A character that a key may hold. -/
def isKeyChar (c : Char) : Bool := ('a' ≤ c && c ≤ 'z') || Text.isDigit c

/-- The key of a service name. -/
def key (name : Text) : Text :=
  (dropVendor (Text.trim (Text.lowercase name))).filter isKeyChar

end Name

/-! ## Listings -/

/-- A service and the URL of its page. -/
structure Service where
  name : Text
  page : Text
deriving DecidableEq, Inhabited

/-- Services in the order in which their names were first listed. -/
abbrev Listing := List Service

namespace Listing

/-- Adds a service; one with its name that is listed already only gets its page. -/
def add : Listing → Service → Listing
  | [], s => [s]
  | listed :: rest, s => if listed.name = s.name then s :: rest else listed :: add rest s

/-- The listing of services that may repeat. -/
def ofServices (services : List Service) : Listing := services.foldl add []

/-- The column that says whether a service has a role of its own. -/
def roleColumn : Nat := 6

/-- The text of a link that says so. -/
def affirmative : Text := "yes".toList

/-- The URL that a link in a cell leads to, if the link says "yes". -/
def pageOf? (base : Url) (cell : Html.Node) : Option Text := do
  let link ← (cell.inside "a").head?
  let href ← if Text.lowercase (Text.trim link.plain) = affirmative then link.attribute? "href"
    else none
  let url ← (base.join href).toOption
  some url.toText

/-- The service that a row lists. -/
def service? (base : Url) (row : Html.Node) : Option Service := do
  let cells := row.inside "td"
  let first ← cells.head?
  let role ← cells[roleColumn]?
  let page ← pageOf? base role
  some ⟨Text.trim first.plain, page⟩

/-- The rows of the first table below its first one. -/
def rows (d : Html.Document) : List Html.Node :=
  match (d.elements "table").head? with
  | some table => (table.inside "tr").drop 1
  | none => []

/-- The services that a page lists. -/
def ofPage (base : Url) (html : Text) : Listing :=
  ofServices ((rows (Html.parse html)).filterMap (service? base))

end Listing

/-! ## Pages -/

namespace Page

/-- What a paragraph contains that is worth a closer look. -/
def hint : Text := "amazonaws.com".toList

/-- The principal that the text of a paragraph mentions. -/
def ofParagraph? (t : Text) : Option Text :=
  if Text.occursIn hint t then Principal.match? (Text.trim t) else none

/-- The principal that the paragraphs of a document mention first. -/
def ofDocument? (d : Html.Document) : Option Text :=
  (d.elements "p").findSome? fun p => ofParagraph? p.plain

/-- The principal that a page mentions. -/
def principal? (html : Text) : Option Text := ofDocument? (Html.parse html)

end Page

end Roster
