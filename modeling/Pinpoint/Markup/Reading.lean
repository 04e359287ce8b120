/-
  Reading a text of markup.

  Tokens are cut off one after the other, and each goes to the rule of the part that is being read,
  or to the rule of another vocabulary inside an `svg` or a `math` element.

  1. One token.
  2. The whole text.
-/
import Pinpoint.Markup.Foreign

namespace Pinpoint.Markup

/-! ## One token -/

/-- Look at a token until it is done with, at most `bound` times. -/
def look : Nat → Token → Build Unit
  | 0, _ => pure ()
  | bound + 1, t => do
    let d ← get
    let more ← if Foreign.takes d t then Foreign.rule t else Rule.ofMode d.mode t
    if more then look bound t

/-- Which run a character belongs to. -/
def runOf (c : Char) : Nat := if Ascii.isBlank c then 0 else if c = '\x00' then 1 else 2

/-- A text cut into runs of blanks, of zero characters, and of anything else. -/
def runs : List Char → List (List Char)
  | [] => []
  | c :: cs =>
    match runs cs with
    | (d :: ds) :: more => if runOf c = runOf d then (c :: d :: ds) :: more else [c] :: (d :: ds) :: more
    | more => [c] :: more

/-- The text after a line feed that does not count. -/
def afterLineFeed : List Char → List Char
  | '\n' :: rest => rest
  | s => s

/-- Take one token.  A fault does nothing, and neither does a document type except in its place.  A
    look either ends the token or steps out of an element or into another part, so a few looks for
    each open element are enough. -/
def take (t : Token) : Build Unit := do
  let d ← get
  set { d with skipLineFeed := false }
  let bound := 4 * d.stack.length + 40
  match t with
  | .text s => (runs (if d.skipLineFeed then afterLineFeed s else s)).forM fun r => look bound (.text r)
  | .fault => pure ()
  | .doctype _ => if d.mode = .start then look bound t
  | t => look bound t

/-! ## The whole text -/

/-- How the text is to be read: a start tag may have said so, until its end tag comes. -/
def textModeOf (d : Draft) : TextMode :=
  if d.textMode = .plain || d.mode = .inText then d.textMode else .data

/-- Read a text; every step takes at least one character, so `bound` is its length. -/
def readAll : Nat → List Char → Draft → Draft
  | 0, _, d => d
  | bound + 1, s, d =>
    if s.isEmpty then d
    else
      let (tokens, rest) := step (textModeOf d) (Foreign.isInside d) s
      let d := ((tokens.forM take).run d).2
      readAll bound rest d

end Pinpoint.Markup

namespace Pinpoint

/-- The markup of a text. -/
def Markup.ofString (s : String) : Markup :=
  let cs := Markup.readable s
  let d := Markup.readAll cs.length cs .empty
  (((Markup.take .eof).run d).2).finish

end Pinpoint
