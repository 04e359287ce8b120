/-
  What a token does at the start of a document and in its head.

  A rule answers whether the token is to be looked at again, in the part that has been entered
  meanwhile: that is how elements that nobody wrote come into being.  Text comes in runs, of blanks,
  of zero characters, or of anything else.

  1. Answers, and kinds of text.
  2. Before the head.
  3. Templates, which may stand in a head, and their end.
  4. The head, and what follows it.
-/
import Pinpoint.Markup.Formatting

namespace Pinpoint.Markup.Rule

open Build

/-! ## Answers, and kinds of text -/

/-- Blanks only.  Carriage returns are among them, because a reference can bring one in. -/
def isBlankRun (s : List Char) : Bool := s.all Ascii.isBlank

/-- Zero characters only. -/
def isZeroRun (s : List Char) : Bool := s.all (· = '\x00')

/-- The token is done with. -/
def done : Build Bool := return false

/-- The token is to be looked at again. -/
def again : Build Bool := return true

/-- Take a step and be done. -/
def doing (b : Build Unit) : Build Bool := do b; done

/-- Go on with another part and look at the token again. -/
def againIn (m : Mode) : Build Bool := do enter m; again

/-! ## Before the head -/

/-- Add a comment at the top of the document. -/
def commentAtTop (value : String) : Build Bool := doing do
  let _ ← addBelow 0 (.comment value)

/-- Before the document type.  A document without one holds old markup. -/
def start (t : Token) : Build Bool :=
  let missing : Build Bool := do
    modify fun d => { d with lenient := true }
    againIn .beforeHtml
  match t with
  | .text s => if isBlankRun s then done else missing
  | .comment s => commentAtTop s
  | .doctype type => doing do
    let _ ← addBelow 0 (.doctype type.name)
    modify fun d => { d with lenient := type.isOld }
    enter .beforeHtml
  | .fault => done
  | .startTag _ | .endTag _ | .eof => missing

/-- Add the `html` element. -/
def openHtml (attributes : List (String × String)) : Build Unit := do
  let _ ← openElement .html "html" attributes
  enter .beforeHead

/-- Before the `html` element. -/
def beforeHtml (t : Token) : Build Bool :=
  let implied : Build Bool := do openHtml []; again
  match t with
  | .text s => if isBlankRun s then done else implied
  | .comment s => commentAtTop s
  | .doctype _ | .fault => done
  | .startTag t => if t.name = "html" then doing (openHtml t.attributes) else implied
  | .endTag t => if ["head", "body", "html", "br"].contains t.name then implied else done
  | .eof => implied

/-- A second `html` tag only adds the attributes that are missing. -/
def htmlTag (t : Tag) : Build Bool := doing do
  let d ← get
  if !d.isOpen ["template"] then
    match d.stack.getLast? with
    | some i => addMissing i t.attributes
    | none => pure ()

/-- Add the `head` element. -/
def openHead (attributes : List (String × String)) : Build Unit := do
  let i ← openElement .html "head" attributes
  modify fun d => { d with head := some i, mode := .inHead }

/-- Before the `head` element. -/
def beforeHead (t : Token) : Build Bool :=
  let implied : Build Bool := do openHead []; again
  match t with
  | .text s => if isBlankRun s then done else implied
  | .comment s => doing (addComment s)
  | .doctype _ | .fault => done
  | .startTag t =>
    if t.name = "html" then htmlTag t
    else if t.name = "head" then doing (openHead t.attributes)
    else implied
  | .endTag t => if ["head", "body", "html", "br"].contains t.name then implied else done
  | .eof => implied

/-! ## Templates -/

/-- Step into a template. -/
def openTemplate (t : Tag) : Build Unit := do
  openTag t
  addMarker
  keepBody
  modify fun d => { d with mode := .inTemplate, templateModes := .inTemplate :: d.templateModes }

/-- Step out of the template around. -/
def leaveTemplate : Build Unit := do
  popThrough ["template"]
  clearToMarker
  modify fun d => { d with templateModes := d.templateModes.tail }
  resetMode

/-- The end tag of a template. -/
def endTemplate : Build Bool := doing do
  if (← get).isOpen ["template"] then
    endImpliedThoroughly
    leaveTemplate

/-- The end of the text, perhaps inside a template. -/
def templateEof : Build Bool := do
  if (← get).isOpen ["template"] then
    leaveTemplate
    again
  else doing (enter .finished)

/-! ## The head -/

/-- The start tags that belong into a head. -/
def headTags : List String :=
  ["base", "basefont", "bgsound", "link", "meta", "title", "noframes", "style", "script",
   "template"]

/-- A start tag that belongs into a head. -/
def headTag (t : Tag) : Build Bool := doing do
  if t.name = "title" then openText t (.escapable t.name)
  else if ["noframes", "style"].contains t.name then openText t (.raw t.name)
  else if t.name = "script" then openText t .script
  else if t.name = "template" then openTemplate t
  else addVoid t

/-- Inside the head. -/
def inHead (t : Token) : Build Bool :=
  let leave : Build Bool := do pop; againIn .afterHead
  match t with
  | .text s => if isBlankRun s then doing (addText s) else leave
  | .comment s => doing (addComment s)
  | .doctype _ | .fault => done
  | .startTag t =>
    if t.name = "html" then htmlTag t
    else if t.name = "noscript" then doing (openText t (.raw t.name))
    else if headTags.contains t.name then headTag t
    else if t.name = "head" then done
    else leave
  | .endTag t =>
    if t.name = "head" then doing do pop; enter .afterHead
    else if t.name = "template" then endTemplate
    else if ["body", "html", "br"].contains t.name then leave
    else done
  | .eof => leave

/-- Add the `body` element. -/
def openBody (attributes : List (String × String)) : Build Unit := do
  let _ ← openElement .html "body" attributes
  enter .inBody

/-- Between head and body: what belongs into the head still goes there. -/
def afterHead (t : Token) : Build Bool :=
  let implied : Build Bool := do openBody []; again
  match t with
  | .text s => if isBlankRun s then doing (addText s) else implied
  | .comment s => doing (addComment s)
  | .doctype _ | .fault => done
  | .startTag t =>
    if t.name = "html" then htmlTag t
    else if t.name = "body" then doing do keepBody; openBody t.attributes
    else if t.name = "frameset" then doing do openTag t; enter .inFrameset
    else if headTags.contains t.name then do
      match (← get).head with
      | none => done
      | some h =>
        modify fun d => { d with stack := h :: d.stack }
        let r ← headTag t
        leaveElement h
        return r
    else if t.name = "head" then done
    else implied
  | .endTag t =>
    if t.name = "template" then endTemplate
    else if ["body", "html", "br"].contains t.name then implied
    else done
  | .eof => implied

end Pinpoint.Markup.Rule
