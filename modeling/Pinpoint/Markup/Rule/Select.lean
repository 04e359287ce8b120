/-
  What a token does in a selection list.

  Only items and groups of items stand in a selection list; a list inside a table also ends where
  the table goes on.
-/
import Pinpoint.Markup.Rule.Body

namespace Pinpoint.Markup.Rule

open Build

/-- Step out of the selection list around. -/
def leaveSelect : Build Unit := do
  popThrough ["select"]
  resetMode

/-- A start tag in a selection list. -/
def selectStartTag (t : Tag) : Build Bool := do
  let d ← get
  if t.name = "html" then htmlTag t
  else if t.name = "option" then doing do
    if d.isCurrent ["option"] then pop
    openTag t
  else if ["optgroup", "hr"].contains t.name then doing do
    if d.isCurrent ["option"] then pop
    if (← get).isCurrent ["optgroup"] then pop
    if t.name = "hr" then addVoid t else openTag t
  else if t.name = "select" then doing do if d.inSelectScope ["select"] then leaveSelect
  else if ["input", "keygen", "textarea"].contains t.name then do
    if d.inSelectScope ["select"] then
      leaveSelect
      again
    else done
  else if ["script", "template"].contains t.name then headTag t
  else done

/-- An end tag in a selection list. -/
def selectEndTag (t : Tag) : Build Bool := do
  let d ← get
  if t.name = "optgroup" then doing do
    let outer := d.stack.tail.head?
    if d.isCurrent ["option"] && outer.any (d.isNamed ["optgroup"]) then pop
    if (← get).isCurrent ["optgroup"] then pop
  else if t.name = "option" then doing do if d.isCurrent ["option"] then pop
  else if t.name = "select" then doing do if d.inSelectScope ["select"] then leaveSelect
  else if t.name = "template" then endTemplate
  else done

/-- Inside a selection list. -/
def inSelect : Token → Build Bool
  | .text s => doing do if !isZeroRun s then addText s
  | .comment s => doing (addComment s)
  | .doctype _ | .fault => done
  | .startTag t => selectStartTag t
  | .endTag t => selectEndTag t
  | .eof => inBody .eof

/-- Inside a selection list in a table: the tags of the table end the list. -/
def inSelectInTable (token : Token) : Build Bool := do
  let names := ["caption", "table", "tbody", "tfoot", "thead", "tr", "td", "th"]
  let leave : Build Bool := do leaveSelect; again
  match token with
  | .startTag t => if names.contains t.name then leave else inSelect token
  | .endTag t =>
    if names.contains t.name then
      if (← get).inTableScope [t.name] then leave else done
    else inSelect token
  | token => inSelect token

end Pinpoint.Markup.Rule
