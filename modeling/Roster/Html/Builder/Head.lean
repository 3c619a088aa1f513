import Roster.Html.Builder.Formatting

/-!
# Rules in front of the body

The rules from the start of a document up to its body. What is missing in front of a token is made
up for: the root, the head and the body of a document are always there.
-/

namespace Roster.Html.Builder

/-! ## Document types -/

/-- Starts of public identifiers of document types that ask for the old layout of tables. -/
def oldStarts : List String := [
  "+//silmaril//dtd html pro v0r11 19970101//",
  "-//advasoft ltd//dtd html 3.0 aswedit + extensions//",
  "-//as//dtd html 3.0 aswedit + extensions//",
  "-//ietf//dtd html 2.0 level 1//", "-//ietf//dtd html 2.0 level 2//",
  "-//ietf//dtd html 2.0 strict level 1//", "-//ietf//dtd html 2.0 strict level 2//",
  "-//ietf//dtd html 2.0 strict//", "-//ietf//dtd html 2.0//", "-//ietf//dtd html 2.1e//",
  "-//ietf//dtd html 3.0//", "-//ietf//dtd html 3.2 final//", "-//ietf//dtd html 3.2//",
  "-//ietf//dtd html 3//", "-//ietf//dtd html level 0//", "-//ietf//dtd html level 1//",
  "-//ietf//dtd html level 2//", "-//ietf//dtd html level 3//",
  "-//ietf//dtd html strict level 0//", "-//ietf//dtd html strict level 1//",
  "-//ietf//dtd html strict level 2//", "-//ietf//dtd html strict level 3//",
  "-//ietf//dtd html strict//", "-//ietf//dtd html//",
  "-//metrius//dtd metrius presentational//",
  "-//microsoft//dtd internet explorer 2.0 html strict//",
  "-//microsoft//dtd internet explorer 2.0 html//",
  "-//microsoft//dtd internet explorer 2.0 tables//",
  "-//microsoft//dtd internet explorer 3.0 html strict//",
  "-//microsoft//dtd internet explorer 3.0 html//",
  "-//microsoft//dtd internet explorer 3.0 tables//", "-//netscape comm. corp.//dtd html//",
  "-//netscape comm. corp.//dtd strict html//", "-//o'reilly and associates//dtd html 2.0//",
  "-//o'reilly and associates//dtd html extended 1.0//",
  "-//o'reilly and associates//dtd html extended relaxed 1.0//",
  "-//softquad software//dtd hotmetal pro 6.0::19990601::extensions to html 4.0//",
  "-//softquad//dtd hotmetal pro 4.0::19971010::extensions to html 4.0//",
  "-//spyglass//dtd html 2.0 extended//", "-//sq//dtd html 2.0 hotmetal + extensions//",
  "-//sun microsystems corp.//dtd hotjava html//",
  "-//sun microsystems corp.//dtd hotjava strict html//", "-//w3c//dtd html 3 1995-03-24//",
  "-//w3c//dtd html 3.2 draft//", "-//w3c//dtd html 3.2 final//", "-//w3c//dtd html 3.2//",
  "-//w3c//dtd html 3.2s draft//", "-//w3c//dtd html 4.0 frameset//",
  "-//w3c//dtd html 4.0 transitional//", "-//w3c//dtd html experimental 19960712//",
  "-//w3c//dtd html experimental 970421//", "-//w3c//dtd w3 html//", "-//w3o//dtd w3 html 3.0//",
  "-//webtechs//dtd mozilla html 2.0//", "-//webtechs//dtd mozilla html//"]

/-- Public identifiers that ask for the old layout. -/
def oldIds : List String :=
  ["-//w3o//dtd w3 html strict 3.0//en//", "-/w3c/dtd html 4.0 transitional/en", "html"]

/-- Starts of public identifiers that ask for it when there is no system identifier. -/
def oldStartsAlone : List String :=
  ["-//w3c//dtd html 4.01 frameset//", "-//w3c//dtd html 4.01 transitional//"]

/-- A system identifier that asks for the old layout. -/
def oldSystemId : String := "http://www.ibm.com/data/dtd/v11/ibmxhtml1-transitional.dtd"

/-- A document type asks for the old layout, in which a table may stand inside a paragraph. -/
def asksForOld (d : Doctype) : Bool :=
  let publicId := d.publicId.map Text.asciiLower
  let systemId := d.systemId.map Text.asciiLower
  let starts := fun (l : List String) =>
    publicId.any fun id => l.any fun s => Text.startsWith s.toList id
  d.broken ||
    publicId.any (fun id => oldIds.any fun s => s.toList = id) ||
    systemId = some oldSystemId.toList || starts oldStarts ||
    (systemId.isNone && starts oldStartsAlone)

/-! ## In front of the head -/

/-- Takes a document type: it counts only in front of everything else. -/
def takeDoctype (b : Builder) (d : Doctype) : Builder :=
  if b.mode = .initial then { b with mode := .beforeHtml, oldLayout := asksForOld d } else b

/-- The rules in front of the document type. -/
def initial (b : Builder) (t : Token) : Builder × Outcome :=
  match t with
  | .blank _ | .comment => b.done
  | _ => ({ b with oldLayout := true }, .switch .beforeHtml t)

/-- Makes the root of the document. -/
def makeRoot (b : Builder) (tag : Tag) : Builder :=
  let n := b.draft.next
  let draft := b.draft.make (.element .html tag.name tag.attributes)
  { b with draft := draft.append Draft.root n, stack := n :: b.stack }

/-- The rules in front of the root. -/
def beforeHtml (b : Builder) (t : Token) : Builder × Outcome :=
  let start := (b.makeRoot { name := "html" }, Outcome.switch .beforeHead t)
  match t with
  | .blank _ | .comment => b.done
  | .startTag tag => if tag.name = "html" then (b.makeRoot tag).doneIn .beforeHead else start
  | .endTag tag => if ["head", "body", "html", "br"].contains tag.name then start else b.done
  | _ => start

/-- Opens the head. -/
def openHead (b : Builder) (tag : Tag) : Builder :=
  let (n, b) := b.openElement .html tag
  { b with head := some n }

/-- The rules in front of the head. -/
def beforeHead (b : Builder) (t : Token) : Builder × Outcome :=
  let start := (b.openHead { name := "head" }, Outcome.switch .inHead t)
  match t with
  | .blank _ | .comment => b.done
  | .startTag tag =>
    if tag.name = "html" then (b, .under .inBody t)
    else if tag.name = "head" then (b.openHead tag).doneIn .inHead
    else start
  | .endTag tag => if ["head", "body", "html", "br"].contains tag.name then start else b.done
  | _ => start

/-! ## In the head -/

/-- Opens a template. -/
def openTemplate (b : Builder) (tag : Tag) : Builder :=
  let b := (b.insert tag).addMarker
  { b with
    framesetOk := false, mode := .inTemplate, templateModes := .inTemplate :: b.templateModes }

/-- Closes the innermost template, if there is one. -/
def closeTemplate (b : Builder) : Builder :=
  if b.hasOpen "template" then
    let b := ((b.popImplied thoroughNames).popNamed "template").clearToMarker
    let b := { b with templateModes := b.templateModes.drop 1 }
    { b with mode := b.resetMode }
  else b

/-- The rules in the head. -/
def inHead (b : Builder) (t : Token) : Builder × Outcome :=
  let leave := (b.pop, Outcome.switch .afterHead t)
  match t with
  | .blank text => (b.addText text).done
  | .comment => b.done
  | .startTag tag =>
    match tag.name with
    | "html" => (b, .under .inBody t)
    | "base" | "basefont" | "bgsound" | "link" | "meta" => (b.insertVoid tag).done
    | "title" => (b.insertRaw tag (.references tag.name)).done
    | "noframes" | "style" | "noscript" => (b.insertRaw tag (.raw tag.name)).done
    | "script" => (b.insertRaw tag .script).done
    | "template" => (b.openTemplate tag).done
    | "head" => b.done
    | _ => leave
  | .endTag tag =>
    match tag.name with
    | "head" => b.pop.doneIn .afterHead
    | "body" | "html" | "br" => leave
    | "template" => b.closeTemplate.done
    | _ => b.done
  | _ => leave

/-- The names of elements that belong into the head wherever they stand. -/
def headNames : List String :=
  ["base", "basefont", "bgsound", "link", "meta", "noframes", "script", "style", "template",
    "title"]

/-- The rules behind the head. -/
def afterHead (b : Builder) (t : Token) : Builder × Outcome :=
  let start := (b.insert { name := "body" }, Outcome.switch .inBody t)
  match t with
  | .blank text => (b.addText text).done
  | .comment => b.done
  | .startTag tag =>
    match tag.name with
    | "html" => (b, .under .inBody t)
    | "body" => ({ b.insert tag with framesetOk := false } : Builder).doneIn .inBody
    | "frameset" => (b.insert tag).doneIn .inFrameset
    | "head" => b.done
    | name =>
      if headNames.contains name then
        match b.head with
        | some head =>
          let (b, outcome) := inHead { b with stack := head :: b.stack } t
          (b.close head, outcome)
        | none => b.done
      else start
  | .endTag tag =>
    match tag.name with
    | "template" => b.closeTemplate.done
    | "body" | "html" | "br" => start
    | _ => b.done
  | _ => start

end Roster.Html.Builder
