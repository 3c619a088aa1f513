import Roster.Html.Builder.Table

/-!
# The remaining rules

The rules in selections, templates, framesets, behind the body and in foreign content, and the
choice of the rules for a token (`take`).
-/

namespace Roster.Html.Builder

/-! ## Selections -/

/-- The rules in a selection. -/
def inSelect (b : Builder) (t : Token) : Builder × Outcome :=
  let inScope := b.inScope selectStop (b.isHtml "select")
  match t with
  | .blank text | .text text => (b.addText text).done
  | .nul | .comment | .doctype _ => b.done
  | .startTag tag =>
    match tag.name with
    | "html" => b.inBody t
    | "option" => (b.closeOption.insert tag).done
    | "optgroup" =>
      let b := b.closeOption
      let b := if b.currentIs "optgroup" then b.pop else b
      (b.insert tag).done
    | "select" =>
      if inScope then
        let b := b.popNamed "select"
        b.doneIn b.resetMode
      else b.done
    | "input" | "keygen" | "textarea" =>
      if inScope then
        let b := b.popNamed "select"
        (b, .switch b.resetMode t)
      else b.done
    | "script" | "template" => b.inHead t
    | _ => b.done
  | .endTag tag =>
    match tag.name with
    | "optgroup" =>
      let inGroup := (b.stack.drop 1).head?.any (b.isHtml "optgroup")
      let b := if inGroup then b.closeOption else b
      if b.currentIs "optgroup" then b.pop.done else b.done
    | "option" => b.closeOption.done
    | "select" =>
      if inScope then
        let b := b.popNamed "select"
        b.doneIn b.resetMode
      else b.done
    | "template" => b.closeTemplate.done
    | _ => b.done
  | .finish => b.inBody t

/-- The rules in a selection inside a table, whose parts close it. -/
def inSelectInTable (b : Builder) (t : Token) : Builder × Outcome :=
  let parts := ["caption", "table", "tbody", "tfoot", "thead", "tr", "td", "th"]
  let leave :=
    let b := b.popNamed "select"
    (b, Outcome.switch b.resetMode t)
  match t with
  | .startTag tag => if parts.contains tag.name then leave else b.inSelect t
  | .endTag tag =>
    if parts.contains tag.name then if b.inTableScope tag.name then leave else b.done
    else b.inSelect t
  | _ => b.inSelect t

/-! ## Templates -/

/-- The rules in a template: what comes first decides by which rules it goes on. -/
def inTemplate (b : Builder) (t : Token) : Builder × Outcome :=
  let goOn := fun (mode : Mode) =>
    ({ b with templateModes := mode :: b.templateModes.drop 1 }, Outcome.switch mode t)
  match t with
  | .blank _ | .text _ | .comment => b.inBody t
  | .nul | .doctype _ => b.done
  | .startTag tag =>
    if headNames.contains tag.name then b.inHead t
    else
      match tag.name with
      | "caption" | "colgroup" | "tbody" | "tfoot" | "thead" => goOn .inTable
      | "col" => goOn .inColumnGroup
      | "tr" => goOn .inTableBody
      | "td" | "th" => goOn .inRow
      | _ => goOn .inBody
  | .endTag tag => if tag.name = "template" then b.closeTemplate.done else b.done
  | .finish =>
    if b.hasOpen "template" then
      let b := (b.popNamed "template").clearToMarker
      let b := { b with templateModes := b.templateModes.drop 1 }
      (b, .switch b.resetMode t)
    else b.done

/-! ## Behind the body, and framesets -/

/-- The rules behind the body. -/
def afterBody (b : Builder) (t : Token) : Builder × Outcome :=
  match t with
  | .blank _ => b.inBody t
  | .comment | .doctype _ | .finish => b.done
  | .startTag tag => if tag.name = "html" then b.inBody t else (b, .switch .inBody t)
  | .endTag tag => if tag.name = "html" then b.doneIn .afterAfterBody else (b, .switch .inBody t)
  | .nul | .text _ => (b, .switch .inBody t)

/-- The rules behind the root. -/
def afterAfterBody (b : Builder) (t : Token) : Builder × Outcome :=
  match t with
  | .blank _ => b.inBody t
  | .comment | .doctype _ | .finish => b.done
  | .startTag tag => if tag.name = "html" then b.inBody t else (b, .switch .inBody t)
  | .endTag _ | .nul | .text _ => (b, .switch .inBody t)

/-- The rules in a frameset. -/
def inFrameset (b : Builder) (t : Token) : Builder × Outcome :=
  match t with
  | .blank text => (b.addText text).done
  | .startTag tag =>
    match tag.name with
    | "html" => b.inBody t
    | "frameset" => (b.insert tag).done
    | "frame" => (b.insertVoid tag).done
    | "noframes" => b.inHead t
    | _ => b.done
  | .endTag tag =>
    if tag.name = "frameset" && b.stack.length ≠ 1 then
      let b := b.pop
      if b.currentIs "frameset" then b.done else b.doneIn .afterFrameset
    else b.done
  | _ => b.done

/-- The rules behind a frameset. -/
def afterFrameset (b : Builder) (t : Token) : Builder × Outcome :=
  match t with
  | .blank text => (b.addText text).done
  | .startTag tag =>
    match tag.name with
    | "html" => b.inBody t
    | "noframes" => b.inHead t
    | _ => b.done
  | .endTag tag => if tag.name = "html" then b.doneIn .afterAfterFrameset else b.done
  | _ => b.done

/-- The rules behind a frameset and its root. -/
def afterAfterFrameset (b : Builder) (t : Token) : Builder × Outcome :=
  match t with
  | .blank _ => b.inBody t
  | .startTag tag =>
    match tag.name with
    | "html" => b.inBody t
    | "noframes" => b.inHead t
    | _ => b.done
  | _ => b.done

/-! ## Foreign content -/

/-- A token is taken by the rules for foreign content: the innermost element is none of HTML and
does not hold HTML at this point. -/
def isForeign (b : Builder) (t : Token) : Bool :=
  match b.stack.head? with
  | none => false
  | some n =>
    let l := b.label n
    match t with
    | .finish => false
    | .nul | .blank _ | .text _ => l.1 ≠ .html && !isMathText l && !isSvgHtml l
    | .startTag tag =>
      l.1 ≠ .html && !isSvgHtml l && !(l == (.math, "annotation-xml") && tag.name = "svg") &&
        !(isMathText l && tag.name ≠ "mglyph" && tag.name ≠ "malignmark")
    | _ => l.1 ≠ .html

/-- The names of elements of HTML that end foreign content. -/
def breakoutNames : List String :=
  ["b", "big", "blockquote", "body", "br", "center", "code", "dd", "div", "dl", "dt", "em",
    "embed", "h1", "h2", "h3", "h4", "h5", "h6", "head", "hr", "i", "img", "li", "listing",
    "menu", "meta", "nobr", "ol", "p", "pre", "ruby", "s", "small", "span", "strong", "strike",
    "sub", "sup", "table", "tt", "u", "ul", "var"]

/-- A start tag ends foreign content. -/
def breaksOut (tag : Tag) : Bool :=
  breakoutNames.contains tag.name ||
    (tag.name = "font" && ["color", "face", "size"].any fun a => (tag.attribute? a).isSome)

/-- The name of an element of a drawing: one that holds HTML has a capital letter in it. -/
def drawingTag (tag : Tag) : Tag :=
  if tag.name = "foreignobject" then { tag with name := "foreignObject" } else tag

/-- Opens an element in the language of the innermost one. -/
def openForeign (b : Builder) (tag : Tag) : Builder :=
  match (b.stack.head?.map b.label).getD (.html, "") with
  | (.svg, _) => b.enterForeign .svg (drawingTag tag)
  | (space, _) => b.enterForeign space tag

/-- Closes foreign content up to where HTML may stand. -/
def leaveForeign (b : Builder) : Builder :=
  { b with stack := b.stack.dropWhile fun n =>
      let l := b.label n
      l.1 ≠ .html && !isMathText l && !isSvgHtml l }

/-- The name of an element as end tags are compared with it. -/
def foldedName (b : Builder) (n : Nat) : String :=
  String.ofList (Text.asciiLower (b.label n).2.toList)

/-- Takes an end tag in foreign content: it closes up to an element with its name; if one of HTML
comes first, the rules of the mode take it. -/
def endForeign (b : Builder) (tag : Tag) : Builder × Outcome := go true b.stack
where
  /-- The search from an element outward. -/
  go (innermost : Bool) : List Nat → Builder × Outcome
    | [] => b.done
    | [_] => b.done
    | n :: outer =>
      if !innermost && (b.label n).1 = .html then (b, .under b.mode (.endTag tag))
      else if b.foldedName n = tag.name then ({ b with stack := outer } : Builder).done
      else go false outer

/-- The rules for foreign content. -/
def foreign (b : Builder) (t : Token) : Builder × Outcome :=
  match t with
  | .nul => (b.addText ['\uFFFD']).done
  | .blank text => (b.addText text).done
  | .text text => (b.addText text).keepBody.done
  | .startTag tag =>
    if breaksOut tag then
      let b := b.leaveForeign
      (b, .under b.mode t)
    else (b.openForeign tag).done
  | .endTag tag =>
    if tag.name = "br" || tag.name = "p" then
      let b := b.leaveForeign
      (b, .under b.mode t)
    else b.endForeign tag
  | .comment | .doctype _ | .finish => b.done

/-! ## Choosing the rules -/

/-- Takes a token by the rules of a mode. -/
def take (mode : Mode) (b : Builder) (t : Token) : Builder × Outcome :=
  match mode with
  | .initial => b.initial t
  | .beforeHtml => b.beforeHtml t
  | .beforeHead => b.beforeHead t
  | .inHead => b.inHead t
  | .afterHead => b.afterHead t
  | .inBody => b.inBody t
  | .rawContent => b.rawContent t
  | .inTable => b.inTable t
  | .inTableText => b.inTableText t
  | .inCaption => b.inCaption t
  | .inColumnGroup => b.inColumnGroup t
  | .inTableBody => b.inTableBody t
  | .inRow => b.inRow t
  | .inCell => b.inCell t
  | .inSelect => b.inSelect t
  | .inSelectInTable => b.inSelectInTable t
  | .inTemplate => b.inTemplate t
  | .afterBody => b.afterBody t
  | .inFrameset => b.inFrameset t
  | .afterFrameset => b.afterFrameset t
  | .afterAfterBody => b.afterAfterBody t
  | .afterAfterFrameset => b.afterAfterFrameset t

/-- Acts on an outcome until the token is done with. Each turn goes on to other rules; the open
elements and a fixed number of modes bound how often that happens. -/
def settle : (turns : Nat) → Builder × Outcome → Builder
  | 0, (b, _) => b
  | _ + 1, (b, .done) => b
  | turns + 1, (b, .under mode t) => settle turns (take mode b t)
  | turns + 1, (b, .switch mode t) =>
    let b := { b with mode := mode }
    settle turns (if b.isForeign t then b.foreign t else take mode b t)

/-- Takes a token. A line feed right behind some start tags is dropped. -/
def push (b : Builder) (t : Token) : Builder :=
  let skip := b.skipLineFeed
  let b := { b with skipLineFeed := false }
  match t with
  | .doctype d => b.takeDoctype d
  | .blank ('\n' :: text) =>
    if skip && text.isEmpty then b
    else
      let t := .blank (if skip then text else '\n' :: text)
      settle (4 * b.stack.length + 64) (b, .switch b.mode t)
  | t => settle (4 * b.stack.length + 64) (b, .switch b.mode t)

end Roster.Html.Builder
