/-
  Scopes: how far up the stack an element can be seen.

  An end tag reaches only what can be seen from the inside.  Each scope is given by the elements
  that end it, and `Draft.sees` is the one search behind all of them.

  1. Seeing an element up the stack.
  2. The scopes.
  3. Special elements, across which no end tag of an ordinary element reaches.
-/
import Pinpoint.Markup.Draft

namespace Pinpoint.Markup.Draft

/-! ## Seeing an element up the stack -/

/-- Is there an element that passes the test before the first one that ends the scope?  An element
    that passes the test is seen even if it ends the scope. -/
def sees (test ends : Nat → Bool) : List Nat → Bool
  | [] => false
  | i :: outer => test i || (!ends i && sees test ends outer)

example : sees (· = 2) (· = 5) [1, 2, 5] = true ∧ sees (· = 2) (· = 5) [1, 5, 2] = false := by decide

/-! ## The scopes -/

/-- The elements that end every scope. -/
def scopeEnds : List String :=
  ["applet", "caption", "html", "table", "td", "th", "marquee", "object", "template"]

/-- Is the node an element of a formula inside which text is ordinary? -/
def holdsText (d : Draft) (i : Nat) : Bool :=
  match d.element? i with
  | some (.math, name) => ["mi", "mo", "mn", "ms", "mtext"].contains name
  | _ => false

/-- Is the node an element of a drawing inside which markup is ordinary? -/
def holdsHtml (d : Draft) (i : Nat) : Bool :=
  match d.element? i with
  | some (.svg, name) => ["foreignobject", "desc", "title"].contains name
  | _ => false

/-- Does an element end the scope whose own ends are `names`? -/
def endsScope (d : Draft) (names : List String) (i : Nat) : Bool :=
  d.isNamed names i || d.holdsText i || d.holdsHtml i

/-- Can an element that passes the test be seen in the common scope? -/
def seesInScope (d : Draft) (test : Nat → Bool) : Bool :=
  sees test (d.endsScope scopeEnds) d.stack

/-- The common scope. -/
def inScope (d : Draft) (names : List String) : Bool := d.seesInScope (d.isNamed names)

/-- The scope of list items. -/
def inListScope (d : Draft) (names : List String) : Bool :=
  sees (d.isNamed names) (d.endsScope ("ol" :: "ul" :: scopeEnds)) d.stack

/-- The scope of paragraphs. -/
def inButtonScope (d : Draft) (names : List String) : Bool :=
  sees (d.isNamed names) (d.endsScope ("button" :: scopeEnds)) d.stack

/-- The scope of the parts of a table. -/
def inTableScope (d : Draft) (names : List String) : Bool :=
  sees (d.isNamed names) (d.isNamed ["html", "table", "template"]) d.stack

/-- The scope of a selection list, which only its items do not end. -/
def inSelectScope (d : Draft) (names : List String) : Bool :=
  sees (d.isNamed names) (fun i => !d.isNamed ["optgroup", "option"] i) d.stack

/-! ## Special elements -/

/-- Elements that no end tag of an ordinary element reaches across. -/
def specialNames : List String :=
  ["address", "applet", "area", "article", "aside", "base", "basefont", "bgsound", "blockquote",
   "body", "br", "button", "caption", "center", "col", "colgroup", "dd", "details", "dir", "div",
   "dl", "dt", "embed", "fieldset", "figcaption", "figure", "footer", "form", "frame", "frameset",
   "h1", "h2", "h3", "h4", "h5", "h6", "head", "header", "hgroup", "hr", "html", "iframe", "img",
   "input", "isindex", "li", "link", "listing", "main", "marquee", "menu", "meta", "nav",
   "noembed", "noframes", "noscript", "object", "ol", "p", "param", "plaintext", "pre", "script",
   "section", "select", "source", "style", "summary", "table", "tbody", "td", "template",
   "textarea", "tfoot", "th", "thead", "title", "tr", "track", "ul", "wbr", "xmp"]

/-- Is the element special? -/
def isSpecial (d : Draft) (i : Nat) : Bool := d.isNamed specialNames i

end Pinpoint.Markup.Draft
