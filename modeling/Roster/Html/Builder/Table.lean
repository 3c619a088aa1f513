import Roster.Html.Builder.Body

/-!
# Rules in tables

Inside a table only its parts may stand; everything else goes in front of it (`foster`). A part
that starts closes those that cannot hold it and opens those that are missing.
-/

namespace Roster.Html.Builder

/-- Opens an element of HTML that no tag has opened. -/
def insertMissing (b : Builder) (name : String) : Builder := b.insert { name := name }

/-- The open elements at which a row group may stand. -/
def tableContext : List String := ["html", "table", "template"]

/-- The open elements at which a row may stand. -/
def bodyContext : List String := ["tbody", "tfoot", "thead", "template", "html"]

/-- The open elements at which a cell may stand. -/
def rowContext : List String := ["tr", "template", "html"]

/-- Takes a token by the rules in the body, with everything in front of the table. -/
def foster (b : Builder) (t : Token) : Builder × Outcome :=
  let (b, outcome) := inBody { b with fostering := true } t
  ({ b with fostering := false }, outcome)

/-! ## Text -/

/-- The rules for text between the parts of a table. -/
def textInTable (b : Builder) (t : Token) : Builder × Outcome :=
  if b.currentSatisfies (b.isOneOf ["table", "tbody", "tfoot", "thead", "tr"]) then
    ({ b with returnMode := b.mode, tableText := [] }, .switch .inTableText t)
  else b.foster t

/-- Puts the text that was gathered between the parts of a table: inside the table if it is all
white space, and in front of it otherwise. -/
def releaseText (b : Builder) : Builder :=
  let gathered := b.tableText.reverse
  let b := { b with tableText := [] }
  let isText := fun (t : Token) => match t with
    | .text _ => true
    | _ => false
  if gathered.any isText then gathered.foldl (fun b t => (b.foster t).1) b
  else gathered.foldl (fun b t => match t with
    | .blank text => b.addText text
    | _ => b) b

/-- The rules while text between the parts of a table is gathered. -/
def inTableText (b : Builder) (t : Token) : Builder × Outcome :=
  match t with
  | .nul => b.done
  | .blank _ | .text _ => ({ b with tableText := t :: b.tableText } : Builder).done
  | _ => (b.releaseText, .switch b.returnMode t)

/-! ## Tables -/

/-- The rules between the parts of a table. -/
def inTable (b : Builder) (t : Token) : Builder × Outcome :=
  match t with
  | .nul | .blank _ | .text _ => b.textInTable t
  | .comment | .doctype _ => b.done
  | .startTag tag =>
    match tag.name with
    | "caption" => ((b.popTo tableContext).addMarker.insert tag).doneIn .inCaption
    | "colgroup" => ((b.popTo tableContext).insert tag).doneIn .inColumnGroup
    | "col" => ((b.popTo tableContext).insertMissing "colgroup", .switch .inColumnGroup t)
    | "tbody" | "tfoot" | "thead" => ((b.popTo tableContext).insert tag).doneIn .inTableBody
    | "td" | "th" | "tr" =>
      ((b.popTo tableContext).insertMissing "tbody", .switch .inTableBody t)
    | "table" =>
      if b.inTableScope "table" then
        let b := b.popNamed "table"
        (b, .switch b.resetMode t)
      else b.done
    | "style" | "script" | "template" => b.inHead t
    | "input" => if isHidden tag then (b.insertVoid tag).done else b.foster t
    | "form" =>
      if b.hasOpen "template" || b.form.isSome then b.done
      else
        let (n, b) := b.addElement .html tag
        ({ b with form := some n } : Builder).done
    | _ => b.foster t
  | .endTag tag =>
    match tag.name with
    | "table" =>
      if b.inTableScope "table" then
        let b := b.popNamed "table"
        b.doneIn b.resetMode
      else b.done
    | "body" | "caption" | "col" | "colgroup" | "html" | "tbody" | "td" | "tfoot" | "th" | "thead"
    | "tr" => b.done
    | "template" => b.closeTemplate.done
    | _ => b.foster t
  | .finish => b.inBody t

/-- The rules in the caption of a table. -/
def inCaption (b : Builder) (t : Token) : Builder × Outcome :=
  let close := fun (next : Builder → Builder × Outcome) =>
    if b.inTableScope "caption" then
      next ((b.popImplied impliedNames).popNamed "caption").clearToMarker
    else b.done
  let onward := close fun b => (b, .switch .inTable t)
  match t with
  | .startTag tag =>
    if ["caption", "col", "colgroup", "tbody", "td", "tfoot", "th", "thead", "tr"].contains
        tag.name then onward
    else b.inBody t
  | .endTag tag =>
    match tag.name with
    | "caption" => close fun b => b.doneIn .inTable
    | "table" => onward
    | "body" | "col" | "colgroup" | "html" | "tbody" | "td" | "tfoot" | "th" | "thead" | "tr" =>
      b.done
    | _ => b.inBody t
  | _ => b.inBody t

/-- The rules in a group of columns. -/
def inColumnGroup (b : Builder) (t : Token) : Builder × Outcome :=
  let leave := if b.currentIs "colgroup" then (b.pop, Outcome.switch .inTable t) else b.done
  match t with
  | .blank text => (b.addText text).done
  | .comment => b.done
  | .startTag tag =>
    match tag.name with
    | "html" => b.inBody t
    | "col" => (b.insertVoid tag).done
    | "template" => b.inHead t
    | _ => leave
  | .endTag tag =>
    match tag.name with
    | "colgroup" => if b.currentIs "colgroup" then b.pop.doneIn .inTable else b.done
    | "col" => b.done
    | "template" => b.closeTemplate.done
    | _ => leave
  | .finish => b.inBody t
  | _ => leave

/-- The rules in a group of rows. -/
def inTableBody (b : Builder) (t : Token) : Builder × Outcome :=
  let leave :=
    if b.inScope tableStop (b.isOneOf ["table", "tbody", "tfoot"]) then
      ((b.popTo bodyContext).pop, Outcome.switch .inTable t)
    else b.done
  match t with
  | .startTag tag =>
    match tag.name with
    | "tr" => ((b.popTo bodyContext).insert tag).doneIn .inRow
    | "td" | "th" => ((b.popTo bodyContext).insertMissing "tr", .switch .inRow t)
    | "caption" | "col" | "colgroup" | "tbody" | "tfoot" | "thead" => leave
    | _ => b.inTable t
  | .endTag tag =>
    match tag.name with
    | "tbody" | "tfoot" | "thead" =>
      if b.inTableScope tag.name then (b.popTo bodyContext).pop.doneIn .inTable else b.done
    | "table" => leave
    | "body" | "caption" | "col" | "colgroup" | "html" | "td" | "th" | "tr" => b.done
    | _ => b.inTable t
  | _ => b.inTable t

/-- The rules in a row. -/
def inRow (b : Builder) (t : Token) : Builder × Outcome :=
  let closed := (b.popTo rowContext).pop
  let leave := if b.inTableScope "tr" then (closed, Outcome.switch .inTableBody t) else b.done
  match t with
  | .startTag tag =>
    match tag.name with
    | "td" | "th" => ((b.popTo rowContext).insert tag).addMarker.doneIn .inCell
    | "caption" | "col" | "colgroup" | "tbody" | "tfoot" | "thead" | "tr" => leave
    | _ => b.inTable t
  | .endTag tag =>
    match tag.name with
    | "tr" => if b.inTableScope "tr" then closed.doneIn .inTableBody else b.done
    | "table" => leave
    | "tbody" | "tfoot" | "thead" => if b.inTableScope tag.name then leave else b.done
    | "body" | "caption" | "col" | "colgroup" | "html" | "td" | "th" => b.done
    | _ => b.inTable t
  | _ => b.inTable t

/-- The rules in a cell. -/
def inCell (b : Builder) (t : Token) : Builder × Outcome :=
  let isCell := b.isOneOf ["td", "th"]
  let closed := ((b.popImplied impliedNames).popThrough isCell).clearToMarker
  match t with
  | .startTag tag =>
    if ["caption", "col", "colgroup", "tbody", "td", "tfoot", "th", "thead", "tr"].contains
        tag.name then
      if b.inScope tableStop isCell then (closed, .switch .inRow t) else b.done
    else b.inBody t
  | .endTag tag =>
    match tag.name with
    | "td" | "th" =>
      if b.inTableScope tag.name then
        ((b.popImplied impliedNames).popNamed tag.name).clearToMarker.doneIn .inRow
      else b.done
    | "body" | "caption" | "col" | "colgroup" | "html" => b.done
    | "table" | "tbody" | "tfoot" | "thead" | "tr" =>
      if b.inTableScope tag.name then (closed, .switch .inRow t) else b.done
    | _ => b.inBody t
  | _ => b.inBody t

end Roster.Html.Builder
