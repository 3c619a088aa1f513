import Roster.Html.Draft

/-!
# The state of reading a document

A document is built token by token. The state holds the draft of the document and what decides how
the next token is taken.

**Open elements** (`stack`). The elements whose end has not been seen, innermost first.

**Formatting** (`formatting`). Elements like `b` and `a` that are opened again inside whatever
follows, latest first, with marks where none is opened across.

**Modes.** Which set of rules takes the next token. Rules answer with an `Outcome`: the token is
done with, or other rules are to take it.
-/

namespace Roster.Html

/-- The sets of rules by which tokens are taken. -/
inductive Mode where
  | initial
  | beforeHtml
  | beforeHead
  | inHead
  | afterHead
  | inBody
  | rawContent
  | inTable
  | inTableText
  | inCaption
  | inColumnGroup
  | inTableBody
  | inRow
  | inCell
  | inSelect
  | inSelectInTable
  | inTemplate
  | afterBody
  | inFrameset
  | afterFrameset
  | afterAfterBody
  | afterAfterFrameset
deriving DecidableEq, Inhabited

/-- How the text behind the last token is read: as tags, as the content of an element without tags,
in which references may count, as a script, or as nothing but text. -/
inductive Reading where
  | tags
  | raw (name : String)
  | references (name : String)
  | script
  | plain
deriving DecidableEq, Inhabited

/-- A formatting element with its tag, or a mark. -/
inductive Formatting where
  | marker
  | element (n : Nat) (tag : Tag)
deriving DecidableEq, Inhabited

/-- The state of reading a document. -/
structure Builder where
  draft : Draft := .empty
  stack : List Nat := []
  formatting : List Formatting := []
  mode : Mode := .initial
  returnMode : Mode := .initial
  templateModes : List Mode := []
  head : Option Nat := none
  form : Option Nat := none
  framesetOk : Bool := true
  fostering : Bool := false
  skipLineFeed : Bool := false
  oldLayout : Bool := false
  tableText : List Token := []
  reading : Reading := .tags
deriving Inhabited

/-- What becomes of a token: nothing more, or it is taken in another mode, which stays, or by the
rules of another mode, which does not. -/
inductive Outcome where
  | done
  | switch (mode : Mode) (token : Token)
  | under (mode : Mode) (token : Token)
deriving Inhabited

namespace Builder

/-- The state, with a token done with. -/
def done (b : Builder) : Builder × Outcome := (b, .done)

/-- The state in another mode, with a token done with. -/
def doneIn (b : Builder) (mode : Mode) : Builder × Outcome := ({ b with mode := mode }, .done)

/-! ## Labels -/

/-- The namespace and name of an element. -/
def label (b : Builder) (n : Nat) : Namespace × String := (b.draft.label? n).getD (.html, "")

/-- The element is one of HTML with one of these names. -/
def isOneOf (b : Builder) (names : List String) (n : Nat) : Bool :=
  let (space, name) := b.label n
  space = .html && names.contains name

/-- The element is one of HTML with this name. -/
def isHtml (b : Builder) (name : String) (n : Nat) : Bool := b.label n == (.html, name)

/-- Elements of mathematics that hold text. -/
def isMathText (l : Namespace × String) : Bool :=
  l.1 = .math && ["mi", "mo", "mn", "ms", "mtext"].contains l.2

/-- Elements of drawings that hold HTML. -/
def isSvgHtml (l : Namespace × String) : Bool :=
  l.1 = .svg && ["foreignObject", "desc", "title"].contains l.2

/-! ## Open elements -/

/-- The innermost open element satisfies `p`. -/
def currentSatisfies (b : Builder) (p : Nat → Bool) : Bool := b.stack.head?.any p

/-- The innermost open element is one of HTML with this name. -/
def currentIs (b : Builder) (name : String) : Bool := b.currentSatisfies (b.isHtml name)

/-- An open element of HTML has this name. -/
def hasOpen (b : Builder) (name : String) : Bool := b.stack.any (b.isHtml name)

/-- Closes the innermost element. -/
def pop (b : Builder) : Builder := { b with stack := b.stack.drop 1 }

/-- Closes elements up to the first one that satisfies `p`, included. -/
def popThrough (b : Builder) (p : Nat → Bool) : Builder :=
  { b with stack := (b.stack.dropWhile fun n => !p n).drop 1 }

/-- Closes elements up to the first one with a name, included. -/
def popNamed (b : Builder) (name : String) : Builder := b.popThrough (b.isHtml name)

/-- Closes elements until the innermost one has one of these names. -/
def popTo (b : Builder) (names : List String) : Builder :=
  { b with stack := b.stack.dropWhile fun n => !b.isOneOf names n }

/-- Closes one element wherever it is. -/
def close (b : Builder) (n : Nat) : Builder := { b with stack := b.stack.erase n }

/-- The names of elements whose end may be left out. -/
def impliedNames : List String :=
  ["dd", "dt", "li", "option", "optgroup", "p", "rb", "rp", "rt", "rtc"]

/-- The names of elements whose end may be left out at the end of a template. -/
def thoroughNames : List String :=
  impliedNames ++ ["caption", "colgroup", "tbody", "td", "tfoot", "th", "thead", "tr"]

/-- Closes elements whose end may be left out. -/
def popImplied (b : Builder) (names : List String) : Builder :=
  { b with stack := b.stack.dropWhile (b.isOneOf names) }

/-- Closes elements whose end may be left out, but none with this name. -/
def popImpliedBut (b : Builder) (name : String) : Builder := b.popImplied (impliedNames.erase name)

/-! ## Scopes -/

/-- An open element satisfies `target`, and none inside it is one at which the search stops. -/
def inScope (b : Builder) (stop : Namespace × String → Bool) (target : Nat → Bool) : Bool :=
  go b.stack
where
  /-- The search from the innermost element outward. -/
  go : List Nat → Bool
    | [] => false
    | n :: outer => target n || (!stop (b.label n) && go outer)

/-- Where the usual search stops. -/
def usualStop (l : Namespace × String) : Bool :=
  (l.1 = .html && ["applet", "caption", "html", "table", "td", "th", "marquee", "object",
    "template"].contains l.2) || isMathText l || isSvgHtml l

/-- Where the search from a list item stops. -/
def listStop (l : Namespace × String) : Bool :=
  usualStop l || (l.1 = .html && ["ol", "ul"].contains l.2)

/-- Where the search for a paragraph stops. -/
def buttonStop (l : Namespace × String) : Bool := usualStop l || l == (.html, "button")

/-- Where the search inside a table stops. -/
def tableStop (l : Namespace × String) : Bool :=
  l.1 = .html && ["html", "table", "template"].contains l.2

/-- Where the search inside a selection stops. -/
def selectStop (l : Namespace × String) : Bool :=
  !(l.1 = .html && ["optgroup", "option"].contains l.2)

/-- An element with this name is in the usual scope. -/
def inUsualScope (b : Builder) (name : String) : Bool := b.inScope usualStop (b.isHtml name)

/-- An element with this name is in the scope of the innermost table. -/
def inTableScope (b : Builder) (name : String) : Bool := b.inScope tableStop (b.isHtml name)

/-- Closes a paragraph and what is open inside it. -/
def closeParagraph (b : Builder) : Builder := (b.popImpliedBut "p").popNamed "p"

/-- Closes a paragraph, if one is in scope. -/
def endParagraph (b : Builder) : Builder :=
  if b.inScope buttonStop (b.isHtml "p") then b.closeParagraph else b

/-! ## Inserting -/

/-- Where a node goes: to the end of an element, or in front of a table; if the table belongs
nowhere, to the end of another element. -/
inductive Spot where
  | under (n : Nat)
  | before (table otherwise : Nat)

/-- The spot for what may not stand inside a table: in front of the innermost table, or at the end
of a template inside it. -/
def fosterSpot (b : Builder) : List Nat → Spot
  | [] => .under (b.stack.getLast?.getD Draft.root)
  | n :: outer =>
    if b.isHtml "template" n then .under n
    else if b.isHtml "table" n then .before n (outer.head?.getD n)
    else fosterSpot b outer

/-- The spot for a node that belongs into `target`. -/
def spotIn (b : Builder) (target : Nat) : Spot :=
  if b.fostering && b.isOneOf ["table", "tbody", "tfoot", "thead", "tr"] target then
    b.fosterSpot b.stack
  else .under target

/-- The spot for a node that belongs into the innermost element. -/
def spot (b : Builder) : Spot := b.spotIn (b.stack.head?.getD Draft.root)

/-- The draft with a node at a spot. -/
def place (d : Draft) (spot : Spot) (n : Nat) : Draft :=
  match spot with
  | .under p => d.append p n
  | .before table otherwise =>
    if (d.parent? table).isSome then d.insertBefore table n else d.append otherwise n

/-- Makes a node at the current spot; answers its number. -/
def addNode (b : Builder) (kind : Draft.Kind) : Nat × Builder :=
  let n := b.draft.next
  let spot := b.spot
  (n, { b with draft := place (b.draft.make kind) spot n })

/-- Puts text at the current spot. -/
def addText (b : Builder) (t : Text) : Builder := (b.addNode (.text t)).2

/-- Puts an element at the current spot without opening it. -/
def addElement (b : Builder) (space : Namespace) (tag : Tag) : Nat × Builder :=
  b.addNode (.element space tag.name tag.attributes)

/-- Puts an element at the current spot and opens it. -/
def openElement (b : Builder) (space : Namespace) (tag : Tag) : Nat × Builder :=
  let (n, b) := b.addElement space tag
  (n, { b with stack := n :: b.stack })

/-- Opens an element of HTML. -/
def insert (b : Builder) (tag : Tag) : Builder := (b.openElement .html tag).2

/-- Puts an element of HTML that has no content. -/
def insertVoid (b : Builder) (tag : Tag) : Builder := (b.addElement .html tag).2

/-- Opens an element of HTML whose content has no tags. -/
def insertRaw (b : Builder) (tag : Tag) (reading : Reading) : Builder :=
  { b.insert tag with returnMode := b.mode, mode := .rawContent, reading := reading }

/-! ## Modes -/

/-- The mode that the open elements ask for. -/
def resetMode (b : Builder) : Mode := go b.stack
where
  /-- The mode that the elements from one outward ask for. -/
  go : List Nat → Mode
    | [] => .inBody
    | n :: outer =>
      let (space, name) := b.label n
      let last := outer.isEmpty
      if space ≠ .html then go outer
      else if name = "select" then
        match outer.find? (b.isOneOf ["template", "table"]) with
        | some n => if b.isHtml "table" n then .inSelectInTable else .inSelect
        | none => .inSelect
      else if name = "td" || name = "th" then if last then go outer else .inCell
      else if name = "tr" then .inRow
      else if ["tbody", "thead", "tfoot"].contains name then .inTableBody
      else if name = "caption" then .inCaption
      else if name = "colgroup" then .inColumnGroup
      else if name = "table" then .inTable
      else if name = "template" then b.templateModes.head?.getD .inTemplate
      else if name = "head" then if last then go outer else .inHead
      else if name = "body" then .inBody
      else if name = "frameset" then .inFrameset
      else if name = "html" then if b.head.isNone then .beforeHead else .afterHead
      else go outer

end Builder

end Roster.Html
