import Roster.Html.Builder.Head

/-!
# Rules in the body

The rules for most of a document. Blocks close an open paragraph, formatting elements are opened
again inside whatever follows them, and end tags close what they can.
-/

namespace Roster.Html.Builder

/-! ## Classes of names -/

/-- Elements that close a paragraph. -/
def blockNames : List String :=
  ["address", "article", "aside", "blockquote", "center", "details", "dialog", "dir", "div", "dl",
    "fieldset", "figcaption", "figure", "footer", "header", "hgroup", "main", "nav", "ol", "p",
    "section", "summary", "ul", "menu"]

/-- Elements whose end tag closes everything inside them. -/
def closingNames : List String :=
  ["address", "article", "aside", "blockquote", "button", "center", "details", "dialog", "dir",
    "div", "dl", "fieldset", "figcaption", "figure", "footer", "header", "hgroup", "listing",
    "main", "menu", "nav", "ol", "pre", "section", "summary", "ul"]

/-- Headings. -/
def headingNames : List String := ["h1", "h2", "h3", "h4", "h5", "h6"]

/-- Formatting elements other than links. -/
def formattingNames : List String :=
  ["b", "big", "code", "em", "font", "i", "s", "small", "strike", "strong", "tt", "u"]

/-- Elements without content. -/
def voidNames : List String := ["area", "br", "embed", "img", "keygen", "wbr"]

/-- Elements that have no place outside tables. -/
def tablePartNames : List String :=
  ["caption", "col", "colgroup", "frame", "head", "tbody", "td", "tfoot", "th", "thead", "tr"]

/-! ## Start tags -/

/-- A field that is not shown. -/
def isHidden (tag : Tag) : Bool :=
  (tag.attribute? "type").any fun v => Text.asciiLower v = "hidden".toList

/-- The state in which a frameset can no longer replace the body. -/
def keepBody (b : Builder) : Builder := { b with framesetOk := false }

/-- The body, if it is open. -/
def body? (b : Builder) : Option Nat :=
  match b.stack.reverse with
  | _ :: n :: _ => if b.isHtml "body" n then some n else none
  | _ => none

/-- Puts a frameset into the place of the body, if that has nothing in it yet. -/
def startFrameset (b : Builder) (tag : Tag) : Builder :=
  match b.framesetOk, b.body? with
  | true, some body =>
    let b := { b with draft := b.draft.detach body, stack := b.stack.drop (b.stack.length - 1) }
    { b.insert tag with mode := .inFrameset }
  | _, _ => b

/-- Closes the list item in front of another one of its kind: the innermost open one of `names`,
unless an element that is no address, division or paragraph shuts it off. -/
def closeItem (b : Builder) (names : List String) : Builder :=
  let shuts := fun n => b.isSpecial n && !b.isOneOf ["address", "div", "p"] n
  match b.stack.find? fun n => b.isOneOf names n || shuts n with
  | some n =>
    if b.isOneOf names n then
      let name := (b.label n).2
      (b.popImpliedBut name).popNamed name
    else b
  | none => b

/-- Ends a link that is still open in front of another one. -/
def closeLink (b : Builder) : Builder :=
  match b.sinceMarker.find? fun e => b.isHtml "a" e.1 with
  | some (n, _) => ((b.endFormatting "a").forget n).close n
  | none => b

/-- Opens an element of another language. -/
def enterForeign (b : Builder) (space : Namespace) (tag : Tag) : Builder :=
  if tag.selfClosing then (b.addElement space tag).2 else (b.openElement space tag).2

/-- Closes an option that is open in front of another one. -/
def closeOption (b : Builder) : Builder := if b.currentIs "option" then b.pop else b

/-- Takes a start tag in the body that belongs neither to the frame of the document nor into its
head. -/
def openInBody (b : Builder) (tag : Tag) : Builder :=
  let name := tag.name
  if blockNames.contains name then b.endParagraph.insert tag
  else if headingNames.contains name then
    let b := b.endParagraph
    let b := if b.currentSatisfies (b.isOneOf headingNames) then b.pop else b
    b.insert tag
  else if formattingNames.contains name then b.reopen.insertFormatting tag
  else if voidNames.contains name then (b.reopen.insertVoid tag).keepBody
  else if tablePartNames.contains name then b
  else
    match name with
    | "a" => b.closeLink.reopen.insertFormatting tag
    | "li" => (b.keepBody.closeItem ["li"]).endParagraph.insert tag
    | "dd" | "dt" => (b.keepBody.closeItem ["dd", "dt"]).endParagraph.insert tag
    | "table" =>
      let b := if b.oldLayout then b else b.endParagraph
      { (b.insert tag).keepBody with mode := .inTable }
    | "pre" | "listing" => { (b.endParagraph.insert tag).keepBody with skipLineFeed := true }
    | "form" =>
      let inTemplate := b.hasOpen "template"
      if b.form.isSome && !inTemplate then b
      else
        let (n, b) := b.endParagraph.openElement .html tag
        if inTemplate then b else { b with form := some n }
    | "plaintext" => { b.endParagraph.insert tag with reading := .plain }
    | "button" =>
      let b :=
        if b.inUsualScope "button" then (b.popImplied impliedNames).popNamed "button" else b
      (b.reopen.insert tag).keepBody
    | "nobr" =>
      let b := b.reopen
      let b := if b.inUsualScope "nobr" then (b.endFormatting "nobr").reopen else b
      b.insertFormatting tag
    | "applet" | "marquee" | "object" => (b.reopen.insert tag).addMarker.keepBody
    | "input" =>
      let b := b.reopen.insertVoid tag
      if isHidden tag then b else b.keepBody
    | "image" => (b.reopen.insertVoid { tag with name := "img" }).keepBody
    | "param" | "source" | "track" => b.insertVoid tag
    | "hr" => (b.endParagraph.insertVoid tag).keepBody
    | "textarea" =>
      { b.keepBody.insertRaw tag (.references name) with skipLineFeed := true }
    | "xmp" => b.endParagraph.reopen.keepBody.insertRaw tag (.raw name)
    | "iframe" => b.keepBody.insertRaw tag (.raw name)
    | "noembed" | "noscript" => b.insertRaw tag (.raw name)
    | "select" =>
      let b := (b.reopen.insert tag).keepBody
      let inTable := [Mode.inTable, .inCaption, .inTableBody, .inRow, .inCell].contains b.mode
      { b with mode := if inTable then .inSelectInTable else .inSelect }
    | "optgroup" | "option" => b.closeOption.reopen.insert tag
    | "rb" | "rtc" =>
      let b := if b.inUsualScope "ruby" then b.popImplied impliedNames else b
      b.insert tag
    | "rp" | "rt" =>
      let b := if b.inUsualScope "ruby" then b.popImpliedBut "rtc" else b
      b.insert tag
    | "math" => b.reopen.enterForeign .math tag
    | "svg" => b.reopen.enterForeign .svg tag
    | _ => b.reopen.insert tag

/-! ## End tags -/

/-- Closes the form that is being filled. -/
def closeForm (b : Builder) : Builder :=
  if b.hasOpen "template" then
    if b.inUsualScope "form" then (b.popImplied impliedNames).popNamed "form" else b
  else
    match b.form with
    | none => b
    | some n =>
      let b := { b with form := none }
      if b.inScope usualStop (· = n) then (b.popImplied impliedNames).close n else b

/-- Takes an end tag in the body that does not end the body itself. -/
def closeInBody (b : Builder) (name : String) : Builder :=
  if closingNames.contains name then
    if b.inUsualScope name then (b.popImplied impliedNames).popNamed name else b
  else if headingNames.contains name then
    let isHeading := b.isOneOf headingNames
    if b.inScope usualStop isHeading then (b.popImplied impliedNames).popThrough isHeading else b
  else if formattingNames.contains name then b.endFormatting name
  else
    match name with
    | "a" | "nobr" => b.endFormatting name
    | "p" =>
      let b := if b.inScope buttonStop (b.isHtml "p") then b else b.insert { name := "p" }
      b.closeParagraph
    | "li" =>
      if b.inScope listStop (b.isHtml name) then (b.popImpliedBut name).popNamed name else b
    | "dd" | "dt" =>
      if b.inUsualScope name then (b.popImpliedBut name).popNamed name else b
    | "form" => b.closeForm
    | "applet" | "marquee" | "object" =>
      if b.inUsualScope name then
        ((b.popImplied impliedNames).popNamed name).clearToMarker
      else b
    | "br" => (b.reopen.insertVoid { name := "br" }).keepBody
    | "template" => b.closeTemplate
    | _ => b.endOther name

/-! ## The rules -/

/-- The rules in the body. -/
def inBody (b : Builder) (t : Token) : Builder × Outcome :=
  match t with
  | .blank text => (b.reopen.addText text).done
  | .text text => (b.reopen.addText text).keepBody.done
  | .startTag tag =>
    if headNames.contains tag.name then b.inHead t
    else
      match tag.name with
      | "html" => b.done
      | "body" =>
        if b.body?.isSome && !b.hasOpen "template" then b.keepBody.done else b.done
      | "frameset" => (b.startFrameset tag).done
      | _ => (b.openInBody tag).done
  | .endTag tag =>
    match tag.name with
    | "body" => if b.inUsualScope "body" then b.doneIn .afterBody else b.done
    | "html" => if b.inUsualScope "body" then (b, .switch .afterBody t) else b.done
    | name => (b.closeInBody name).done
  | .finish => if b.templateModes.isEmpty then b.done else (b, .under .inTemplate t)
  | .nul | .comment | .doctype _ => b.done

/-- The rules for the content of an element without tags. -/
def rawContent (b : Builder) (t : Token) : Builder × Outcome :=
  match t with
  | .blank text | .text text => (b.addText text).done
  | .endTag _ => b.pop.doneIn b.returnMode
  | .finish => (b.pop, .switch b.returnMode t)
  | _ => b.done

end Roster.Html.Builder
