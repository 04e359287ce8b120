/-
  What a token does in a table.

  A table holds captions, groups of columns, and groups of rows; each level implies the levels above
  it where they are missing.  Anything else goes before the table, except blanks, scripts, and
  fields that do not show.

  1. Stepping out to a level.
  2. What does not belong into a table.
  3. Tables and captions.
  4. Columns.
  5. Rows and cells.
-/
import Pinpoint.Markup.Rule.Body

namespace Pinpoint.Markup.Rule

open Build

/-! ## Stepping out to a level -/

/-- The parts of a table which hold rows. -/
def rowGroups : List String := ["tbody", "tfoot", "thead"]

/-- Step out to the table around. -/
def toTable : Build Unit := popTo ["table", "template", "html"]

/-- Step out to the group of rows around. -/
def toRows : Build Unit := popTo (["template", "html"] ++ rowGroups)

/-- Step out to the row around. -/
def toRow : Build Unit := popTo ["tr", "template", "html"]

/-- Step out of the table around. -/
def leaveTable : Build Unit := do
  popThrough ["table"]
  resetMode

/-! ## What does not belong into a table -/

/-- Treat a token as in the body, and put what it makes before the table. -/
def foster (token : Token) : Build Bool := do
  modify fun d => { d with fostering := true }
  let r ← inBody token
  modify fun d => { d with fostering := false }
  return r

/-- Text right inside a table is gathered; text inside something that does not belong there goes
    where that went. -/
def tableText (token : Token) : Build Bool := do
  let d ← get
  if d.isCurrent (["table", "tr"] ++ rowGroups) then
    set { d with returnMode := d.mode }
    againIn .inTableText
  else foster token

/-- Put the text that has been gathered where it belongs: blanks stay, anything else goes before the
    table as a whole. -/
def placeTableText : Build Unit := do
  let pieces := (← get).tableText.reverse
  modify fun d => { d with tableText := [], mode := d.returnMode }
  if pieces.all isBlankRun then pieces.forM addText
  else
    pieces.forM fun s => do
      let _ ← foster (.text s)

/-- Inside the text in a table. -/
def inTableText : Token → Build Bool
  | .text s => doing do
    if !isZeroRun s then modify fun d => { d with tableText := s :: d.tableText }
  | .doctype _ | .fault => done
  | _ => do placeTableText; again

/-! ## Tables and captions -/

/-- Inside a table, outside its rows. -/
def inTable (token : Token) : Build Bool := do
  let d ← get
  match token with
  | .text _ => tableText token
  | .comment s => doing (addComment s)
  | .doctype _ | .fault => done
  | .startTag t =>
    let is (names : List String) : Bool := names.contains t.name
    if is ["caption"] then doing do
      toTable
      addMarker
      openTag t
      enter .inCaption
    else if is ["colgroup"] then doing do toTable; openTag t; enter .inColumnGroup
    else if is ["col"] then do toTable; openImplied "colgroup"; againIn .inColumnGroup
    else if is rowGroups then doing do toTable; openTag t; enter .inTableBody
    else if is ["td", "th", "tr"] then do toTable; openImplied "tbody"; againIn .inTableBody
    else if is ["table"] then
      if d.inTableScope ["table"] then do leaveTable; again else done
    else if is ["style", "script", "template"] then headTag t
    else if is ["input"] && isHidden t then doing (addVoid t)
    else if is ["form"] then doing do
      if d.form.isNone && !d.isOpen ["template"] then
        let i ← openElement .html t.name t.attributes
        modify fun d => { d with form := some i }
        pop
    else foster token
  | .endTag t =>
    if t.name = "table" then doing do if d.inTableScope ["table"] then leaveTable
    else if ["body", "caption", "col", "colgroup", "html", "tbody", "td", "tfoot", "th", "thead",
        "tr"].contains t.name then done
    else if t.name = "template" then endTemplate
    else foster token
  | .eof => inBody .eof

/-- Inside the caption of a table. -/
def inCaption (token : Token) : Build Bool := do
  let d ← get
  let leave : Build Unit := do
    endImplied []
    popThrough ["caption"]
    clearToMarker
    enter .inTable
  let leaveAgain : Build Bool :=
    if d.inTableScope ["caption"] then do leave; again else done
  match token with
  | .startTag t =>
    if ["caption", "col", "colgroup", "tbody", "td", "tfoot", "th", "thead", "tr"].contains t.name
    then leaveAgain else inBody token
  | .endTag t =>
    if t.name = "caption" then doing do if d.inTableScope ["caption"] then leave
    else if t.name = "table" then leaveAgain
    else if ["body", "col", "colgroup", "html", "tbody", "td", "tfoot", "th", "thead",
        "tr"].contains t.name then done
    else inBody token
  | token => inBody token

/-! ## Columns -/

/-- Inside a group of columns. -/
def inColumnGroup (token : Token) : Build Bool := do
  let d ← get
  let leave : Build Bool :=
    if d.isCurrent ["colgroup"] then do pop; againIn .inTable else done
  match token with
  | .text s => if isBlankRun s then doing (addText s) else leave
  | .comment s => doing (addComment s)
  | .doctype _ | .fault => done
  | .startTag t =>
    if t.name = "html" then htmlTag t
    else if t.name = "col" then doing (addVoid t)
    else if t.name = "template" then headTag t
    else leave
  | .endTag t =>
    if t.name = "colgroup" then doing do
      if d.isCurrent ["colgroup"] then
        pop
        enter .inTable
    else if t.name = "col" then done
    else if t.name = "template" then endTemplate
    else leave
  | .eof => inBody .eof

/-! ## Rows and cells -/

/-- Inside a group of rows. -/
def inTableBody (token : Token) : Build Bool := do
  let d ← get
  let leave : Build Unit := do toRows; pop; enter .inTable
  let leaveAgain : Build Bool :=
    if d.inTableScope ["table", "tbody", "tfoot"] then do leave; again else done
  match token with
  | .startTag t =>
    if t.name = "tr" then doing do toRows; openTag t; enter .inRow
    else if ["td", "th"].contains t.name then do
      toRows
      openImplied "tr"
      againIn .inRow
    else if (["caption", "col", "colgroup"] ++ rowGroups).contains t.name then leaveAgain
    else inTable token
  | .endTag t =>
    if rowGroups.contains t.name then doing do if d.inTableScope [t.name] then leave
    else if t.name = "table" then leaveAgain
    else if ["body", "caption", "col", "colgroup", "html", "td", "th", "tr"].contains t.name then
      done
    else inTable token
  | token => inTable token

/-- Inside a row. -/
def inRow (token : Token) : Build Bool := do
  let d ← get
  let leave : Build Unit := do toRow; pop; enter .inTableBody
  let leaveAgain : Build Bool := if d.inTableScope ["tr"] then do leave; again else done
  match token with
  | .startTag t =>
    if ["td", "th"].contains t.name then doing do
      toRow
      openTag t
      enter .inCell
      addMarker
    else if (["caption", "col", "colgroup", "tr"] ++ rowGroups).contains t.name then leaveAgain
    else inTable token
  | .endTag t =>
    if t.name = "tr" then doing do if d.inTableScope ["tr"] then leave
    else if t.name = "table" then leaveAgain
    else if rowGroups.contains t.name then
      if d.inTableScope [t.name] then leaveAgain else done
    else if ["body", "caption", "col", "colgroup", "html", "td", "th"].contains t.name then done
    else inTable token
  | token => inTable token

/-- Inside a cell. -/
def inCell (token : Token) : Build Bool := do
  let d ← get
  let leave (names : List String) : Build Unit := do
    endImplied []
    popThrough names
    clearToMarker
    enter .inRow
  match token with
  | .startTag t =>
    if (["caption", "col", "colgroup", "td", "th", "tr"] ++ rowGroups).contains t.name then
      if d.inTableScope ["td", "th"] then do leave ["td", "th"]; again else done
    else inBody token
  | .endTag t =>
    if ["td", "th"].contains t.name then doing do
      if d.inTableScope [t.name] then leave [t.name]
    else if ["body", "caption", "col", "colgroup", "html"].contains t.name then done
    else if (["table", "tr"] ++ rowGroups).contains t.name then
      if d.inTableScope [t.name] then do leave ["td", "th"]; again else done
    else inBody token
  | token => inBody token

end Pinpoint.Markup.Rule
