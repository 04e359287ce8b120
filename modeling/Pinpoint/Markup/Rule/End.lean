/-
  What a token does in a set of frames, and at the end of a document.

  After the body, what still comes goes back into the body; after a set of frames it is lost.

  1. Sets of frames.
  2. After the body.
  3. After the `html` element.
-/
import Pinpoint.Markup.Rule.Body

namespace Pinpoint.Markup.Rule

open Build

/-! ## Sets of frames -/

/-- Inside a set of frames. -/
def inFrameset (token : Token) : Build Bool := do
  match token with
  | .text s => doing do if isBlankRun s then addText s
  | .comment s => doing (addComment s)
  | .startTag t =>
    if t.name = "html" then htmlTag t
    else if t.name = "frameset" then doing (openTag t)
    else if t.name = "frame" then doing (addVoid t)
    else if t.name = "noframes" then headTag t
    else done
  | .endTag t => doing do
    if t.name = "frameset" && 1 < (← get).stack.length then
      pop
      if !(← get).isCurrent ["frameset"] then enter .afterFrameset
  | .eof => doing (enter .finished)
  | .doctype _ | .fault => done

/-- After a set of frames. -/
def afterFrameset (token : Token) : Build Bool :=
  match token with
  | .text s => doing do if isBlankRun s then addText s
  | .comment s => doing (addComment s)
  | .startTag t =>
    if t.name = "html" then htmlTag t
    else if t.name = "noframes" then headTag t
    else done
  | .endTag t => doing do if t.name = "html" then enter .afterFrames
  | .eof => doing (enter .finished)
  | .doctype _ | .fault => done

/-! ## After the body -/

/-- After the body: what still comes goes into the body. -/
def afterBody (token : Token) : Build Bool :=
  match token with
  | .text s => if isBlankRun s then inBody token else againIn .inBody
  | .comment s => doing do
    match (← get).stack.getLast? with
    | some i =>
      let _ ← addBelow i (.comment s)
    | none => pure ()
  | .doctype _ | .fault => done
  | .startTag t => if t.name = "html" then htmlTag t else againIn .inBody
  | .endTag t => if t.name = "html" then doing (enter .afterHtml) else againIn .inBody
  | .eof => doing (enter .finished)

/-! ## After the `html` element -/

/-- After the `html` element of a document with a body. -/
def afterHtml (token : Token) : Build Bool :=
  match token with
  | .text s => if isBlankRun s then inBody token else againIn .inBody
  | .comment s => commentAtTop s
  | .doctype _ | .fault => done
  | .startTag t => if t.name = "html" then htmlTag t else againIn .inBody
  | .endTag _ => againIn .inBody
  | .eof => doing (enter .finished)

/-- After the `html` element of a document with a set of frames. -/
def afterFrames (token : Token) : Build Bool :=
  match token with
  | .text s => if isBlankRun s then inBody token else done
  | .comment s => commentAtTop s
  | .startTag t =>
    if t.name = "html" then htmlTag t
    else if t.name = "noframes" then headTag t
    else done
  | .eof => doing (enter .finished)
  | .endTag _ | .doctype _ | .fault => done

end Pinpoint.Markup.Rule
