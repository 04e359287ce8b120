/-
  What a token does inside an `svg` or a `math` element.

  There every element is like any other, until a tag of ordinary markup ends them all.  Some elements
  hold ordinary markup or ordinary text, so the same token may be for the rule here or for the rule
  of the part that is being read.

  1. Which tokens are for the rule here.
  2. Tags that end another vocabulary, and end tags.
  3. The rule.
-/
import Pinpoint.Markup.Rule

namespace Pinpoint.Markup.Foreign

open Build Rule

/-! ## Which tokens are for the rule here -/

/-- The vocabulary of an element. -/
def vocabulary (d : Draft) (i : Nat) : Vocabulary := ((d.element? i).map (·.1)).getD .html

/-- Is the innermost element of another vocabulary? -/
def isInside (d : Draft) : Bool := d.stack.head?.any fun i => vocabulary d i ≠ .html

/-- Is the node a note on a formula, and does it say that it holds ordinary markup? -/
def note? (d : Draft) (i : Nat) : Option Bool :=
  match (d.nodes[i]?).map DraftNode.content with
  | some (.element .math "annotation-xml" attributes) =>
    some <| attributes.any fun a =>
      a.1 = "encoding" && ["text/html", "application/xhtml+xml"].contains (Ascii.lower a.2)
  | _ => none

/-- Is this token for the rule of the part that is being read, though the innermost element `i` is
    of another vocabulary? -/
def isOrdinary (d : Draft) (i : Nat) : Token → Bool
  | .text _ => d.holdsText i || d.holdsHtml i || note? d i = some true
  | .startTag t =>
    (d.holdsText i && !(["mglyph", "malignmark"].contains t.name)) || d.holdsHtml i ||
      note? d i = some true || ((note? d i).isSome && t.name = "svg")
  | .eof => true
  | _ => false

/-- Is this token for another vocabulary? -/
def takes (d : Draft) (t : Token) : Bool :=
  d.stack.head?.any fun i => vocabulary d i ≠ .html && !isOrdinary d i t

/-! ## Tags that end another vocabulary, and end tags -/

/-- Start tags that end every other vocabulary. -/
def breakouts : List String :=
  ["b", "big", "blockquote", "body", "br", "center", "code", "dd", "div", "dl", "dt", "em",
   "embed", "h1", "h2", "h3", "h4", "h5", "h6", "head", "hr", "i", "img", "li", "listing", "menu",
   "meta", "nobr", "ol", "p", "pre", "ruby", "s", "small", "span", "strong", "strike", "sub",
   "sup", "table", "tt", "u", "ul", "var"]

/-- Does a start tag end every other vocabulary? -/
def breaksOut (t : Tag) : Bool :=
  breakouts.contains t.name ||
    (t.name = "font" && t.attributes.any fun a => ["color", "face", "size"].contains a.1)

/-- Step out to where markup or text is ordinary, and treat the token as it is treated there. -/
def leave (mode : Mode) (t : Token) : Build Bool := do
  popWhile fun d i => vocabulary d i ≠ .html && !d.holdsText i && !d.holdsHtml i
  Rule.ofMode mode t

/-- What an end tag does. -/
inductive Closing
  /-- It ends an element; the stack that is left. -/
  | ends (stack : List Nat)
  /-- It meets an element of ordinary markup first. -/
  | ordinary
  | nothing
  deriving Repr, DecidableEq

/-- What an end tag does to the elements above the outermost one, if the innermost of them is of
    another vocabulary. -/
def closing (d : Draft) (name : String) : List Nat → Closing
  | i :: j :: outer =>
    match d.element? i with
    | some (.html, _) => .ordinary
    | some (_, other) => if other = name then .ends (j :: outer) else closing d name (j :: outer)
    | none => .nothing
  | _ => .nothing

/-! ## The rule -/

/-- The rule inside another vocabulary. -/
def rule (t : Token) : Build Bool := do
  let d ← get
  match t with
  | .text s => doing do
    if !isBlankRun s && !isZeroRun s then keepBody
    addText (withoutZeros s)
  | .comment s => doing (addComment s)
  | .startTag tag =>
    if breaksOut tag then leave d.mode t
    else doing (openForeign (vocabulary d d.current) tag)
  | .endTag tag =>
    if ["br", "p"].contains tag.name then leave d.mode t
    else
      match closing d tag.name d.stack with
      | .ends stack => doing (set { d with stack := stack })
      | .ordinary => Rule.ofMode d.mode t
      | .nothing => done
  | .doctype _ | .fault | .eof => done

end Pinpoint.Markup.Foreign
