import Roster.Html.Builder.State

/-!
# Formatting elements

Formatting elements may overlap with others. What is open when another element starts is opened
again inside it (`reopen`); what ends out of order is split so that the elements nest
(`endFormatting`).
-/

namespace Roster.Html.Builder

/-- The names of elements that other elements may not close. -/
def specialNames : List String :=
  ["address", "applet", "area", "article", "aside", "base", "basefont", "bgsound", "blockquote",
    "body", "br", "button", "caption", "center", "col", "colgroup", "dd", "details", "dir", "div",
    "dl", "dt", "embed", "fieldset", "figcaption", "figure", "footer", "form", "frame", "frameset",
    "h1", "h2", "h3", "h4", "h5", "h6", "head", "header", "hgroup", "hr", "html", "iframe", "img",
    "input", "isindex", "li", "link", "listing", "main", "marquee", "menu", "meta", "nav",
    "noembed", "noframes", "noscript", "object", "ol", "p", "param", "plaintext", "pre", "script",
    "section", "select", "source", "style", "summary", "table", "tbody", "td", "template",
    "textarea", "tfoot", "th", "thead", "title", "tr", "track", "ul", "wbr", "xmp"]

/-- The element may not be closed by others. -/
def isSpecial (b : Builder) (n : Nat) : Bool := b.isOneOf specialNames n

/-! ## The list of formatting elements -/

/-- The tag of a formatting element, if it is in the list. -/
def formattingTag? (b : Builder) (n : Nat) : Option Tag :=
  b.formatting.findSome? fun
    | .marker => none
    | .element m tag => if m = n then some tag else none

/-- Takes an element off the list. -/
def forget (b : Builder) (n : Nat) : Builder :=
  { b with formatting := b.formatting.filter fun
    | .marker => true
    | .element m _ => m ≠ n }

/-- Puts another element into the place of one in the list. -/
def substitute (b : Builder) (old new : Nat) (tag : Tag) : Builder :=
  { b with formatting := b.formatting.map fun
    | .marker => .marker
    | .element m t => if m = old then .element new tag else .element m t }

/-- Puts an element into the list as the next one after `earlier`. -/
def listAfter (b : Builder) (earlier new : Nat) (tag : Tag) : Builder :=
  { b with formatting := b.formatting.flatMap fun
    | .marker => [.marker]
    | .element m t =>
      if m = earlier then [.element new tag, .element m t] else [.element m t] }

/-- The elements behind the last mark, latest first. -/
def sinceMarker (b : Builder) : List (Nat × Tag) :=
  (b.formatting.takeWhile (· ≠ .marker)).filterMap fun
    | .marker => none
    | .element n tag => some (n, tag)

/-- Puts a mark. -/
def addMarker (b : Builder) : Builder := { b with formatting := .marker :: b.formatting }

/-- Takes the last mark off the list and all behind it. -/
def clearToMarker (b : Builder) : Builder :=
  { b with formatting := (b.formatting.dropWhile (· ≠ .marker)).drop 1 }

/-! ## Opening -/

/-- Opens an element of the list again. -/
def reopenOne (b : Builder) (entry : Formatting) : Builder :=
  match entry with
  | .marker => b
  | .element old tag =>
    let (n, b) := b.openElement .html tag
    b.substitute old n tag

/-- Opens the formatting elements again that are not open any more. -/
def reopen (b : Builder) : Builder :=
  let closed := b.formatting.takeWhile fun
    | .marker => false
    | .element n _ => !b.stack.contains n
  closed.reverse.foldl reopenOne b

/-- Opens a formatting element and lists it. Of four that are the same the first is forgotten. -/
def insertFormatting (b : Builder) (tag : Tag) : Builder :=
  let same := b.sinceMarker.filter fun e => tag.same e.2
  let b :=
    match same.getLast? with
    | some (first, _) => if 3 ≤ same.length then b.forget first else b
    | none => b
  let (n, b) := b.openElement .html tag
  { b with formatting := .element n tag :: b.formatting }

/-! ## Closing -/

/-- Takes the end tag of any element: closes up to the innermost element of that name, unless a
special one is inside it. -/
def endOther (b : Builder) (name : String) : Builder :=
  match b.stack.find? fun n => b.isHtml name n || b.isSpecial n with
  | none => b
  | some n => if b.isHtml name n then b.popThrough (· = n) else b

/-- What the elements between a formatting element and a block inside it become: those kept open,
innermost first, the outermost of the new chain, and the element behind which the formatting
element is to be listed. -/
structure Split where
  builder : Builder
  kept : List Nat
  last : Nat
  listedAfter : Option Nat

/-- Takes one element between a block and a formatting element: it is dropped, or a copy of it is
put around the chain so far. Only the first three are copied. -/
def splitOne (block : Nat) (s : Split) (count n : Nat) : Split :=
  match s.builder.formattingTag? n with
  | none => s
  | some tag =>
    if 3 ≤ count then { s with builder := s.builder.forget n }
    else
      let copy := s.builder.draft.next
      let b := s.builder.substitute n copy tag
      let draft := b.draft.make (.element .html tag.name tag.attributes)
      { builder := { b with draft := draft.append copy s.last }, kept := s.kept ++ [copy],
        last := copy, listedAfter := if s.last = block then some copy else s.listedAfter }

/-- Splits a formatting element around a block inside it: `inner` is open inside the block,
`between` from the block outward, `outer` outside the formatting element. -/
def splitAround (b : Builder) (formatting : Nat) (tag : Tag) (block : Nat)
    (inner between outer : List Nat) : Builder :=
  let start : Split := ⟨b, [], block, none⟩
  let s := (between.zipIdx).foldl (fun s (n, count) => splitOne block s count n) start
  let b := { s.builder with stack := inner ++ block :: s.kept ++ formatting :: outer }
  let spot := b.spotIn (outer.head?.getD Draft.root)
  let draft := place (b.draft.detach s.last) spot s.last
  let copy := draft.next
  let draft := draft.make (.element .html tag.name tag.attributes)
  let draft := (draft.moveChildren block copy).append block copy
  let b := { b with draft := draft, stack := inner ++ copy :: block :: s.kept ++ outer }
  match s.listedAfter with
  | none => b.substitute formatting copy tag
  | some earlier => (b.listAfter earlier copy tag).forget formatting

/-- Ends a formatting element; each round splits it around one block. -/
def endFormattingRounds (name : String) : (rounds : Nat) → Builder → Builder
  | 0, b => b
  | rounds + 1, b =>
    match b.sinceMarker.find? fun e => e.2.name = name with
    | none => b.endOther name
    | some (n, tag) =>
      if !b.stack.contains n then b.forget n
      else if !b.inScope usualStop (· = n) then b
      else
        let within := b.stack.takeWhile (· ≠ n)
        let outer := (b.stack.dropWhile (· ≠ n)).drop 1
        match (within.reverse.find? b.isSpecial) with
        | none => { b with stack := outer }.forget n
        | some block =>
          let inner := within.takeWhile (· ≠ block)
          let between := (within.dropWhile (· ≠ block)).drop 1
          endFormattingRounds name rounds (b.splitAround n tag block inner between outer)

/-- Ends a formatting element. -/
def endFormatting (b : Builder) (name : String) : Builder :=
  match b.stack.head? with
  | some n =>
    if b.isHtml name n && (b.formattingTag? n).isNone then b.pop
    else endFormattingRounds name 8 b
  | none => b

end Roster.Html.Builder
