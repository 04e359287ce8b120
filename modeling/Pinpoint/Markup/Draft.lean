/-
  A tree of markup while it is being built.

  Nodes stay where they are in the store, but they may move in the tree: what does not belong into a
  table goes before it, and formatting elements that are nested badly are taken apart.  Elements that
  still take children stand on a stack, the innermost first.  They may leave the stack out of order
  and keep their place in the tree.

  1. Nodes and the state of building.
  2. Looking at the stack.
  3. Places in the tree, and moving nodes between them.
  4. The finished tree.
-/
import Pinpoint.Markup.Basic
import Pinpoint.Markup.Token

namespace Pinpoint.Markup

/-! ## Nodes and the state of building -/

/-- The vocabulary that an element belongs to. -/
inductive Vocabulary
  | html
  | svg
  | math
  deriving Repr, DecidableEq

/-- What a node in the making is. -/
inductive DraftContent
  | top
  | doctype (name : String)
  | text (value : String)
  | comment (value : String)
  | element (vocabulary : Vocabulary) (name : String) (attributes : List (String × String))
  deriving Repr, DecidableEq

/-- A node in the making: what it is, what it hangs below, and its children so far. -/
structure DraftNode where
  content : DraftContent
  parent : Option Nat
  children : Array Nat
  deriving Repr

/-- Which part of a document is being read. -/
inductive Mode
  | start
  | beforeHtml
  | beforeHead
  | inHead
  | afterHead
  | inBody
  | inText
  | inTable
  | inTableText
  | inCaption
  | inColumnGroup
  | inTableBody
  | inRow
  | inCell
  | inSelect
  | inSelectInTable
  | inTemplate
  | afterBody
  | inFrameset
  | afterFrameset
  | afterHtml
  | afterFrames
  | finished
  deriving Repr, DecidableEq

/-- What the list of formatting elements holds. -/
inductive Formatting
  /-- Formatting does not reach from before a marker into what comes after it. -/
  | marker
  /-- An element, and the tag that started it, from which it can be started again. -/
  | element (node : Nat) (tag : Tag)
  deriving Repr, DecidableEq

/-- The state of building. -/
structure Draft where
  nodes : Array DraftNode
  /-- The elements that take children, the innermost first. -/
  stack : List Nat
  /-- The formatting in force, the latest first. -/
  formatting : List Formatting
  mode : Mode
  /-- The part to go back to after a text such as a title, or after the text inside a table. -/
  returnMode : Mode
  /-- The parts inside the templates around, the innermost first. -/
  templateModes : List Mode
  /-- Text inside a table, the latest first: where it belongs shows at its end. -/
  tableText : List (List Char)
  head : Option Nat
  form : Option Nat
  /-- Old markup lets a table stand inside a paragraph. -/
  lenient : Bool
  /-- A set of frames may still take the place of the body. -/
  framesAllowed : Bool
  /-- What is put into a table goes before it. -/
  fostering : Bool
  /-- A line feed at the start of the next text does not count. -/
  skipLineFeed : Bool
  /-- How the text that follows is to be read. -/
  textMode : TextMode

/-- Building steps. -/
abbrev Build := StateM Draft

namespace Draft

/-- Nothing read yet. -/
def empty : Draft where
  nodes := #[⟨.top, none, #[]⟩]
  stack := []
  formatting := []
  mode := .start
  returnMode := .start
  templateModes := []
  tableText := []
  head := none
  form := none
  lenient := false
  framesAllowed := true
  fostering := false
  skipLineFeed := false
  textMode := .data

/-! ## Looking at the stack -/

/-- The vocabulary and the name of an element. -/
def element? (d : Draft) (i : Nat) : Option (Vocabulary × String) :=
  match (d.nodes[i]?).map DraftNode.content with
  | some (.element v name _) => some (v, name)
  | _ => none

/-- Is the node an element with one of these names? -/
def isNamed (d : Draft) (names : List String) (i : Nat) : Bool :=
  match d.element? i with
  | some (.html, name) => names.contains name
  | _ => false

/-- The innermost element, or the top. -/
def current (d : Draft) : Nat := d.stack.head?.getD 0

/-- Has the innermost element one of these names? -/
def isCurrent (d : Draft) (names : List String) : Bool := d.stack.head?.any (d.isNamed names)

/-- Is an element with one of these names on the stack? -/
def isOpen (d : Draft) (names : List String) : Bool := d.stack.any (d.isNamed names)

/-- The body, which stands right inside the outermost element if there is one. -/
def body? (d : Draft) : Option Nat :=
  match d.stack.reverse with
  | _ :: i :: _ => if d.isNamed ["body"] i then some i else none
  | _ => none

/-! ## Places in the tree -/

/-- A place for a node that has none. -/
inductive Place
  | lastIn (parent : Nat)
  | before (sibling : Nat)
  deriving Repr, DecidableEq

/-- The node that stands before a place. -/
def neighbour? (d : Draft) : Place → Option Nat
  | .lastIn p => (d.nodes[p]?).bind fun n => n.children.back?
  | .before s => do
    let p ← (← d.nodes[s]?).parent
    ((← d.nodes[p]?).children.toList.takeWhile (· ≠ s)).getLast?

/-- Hang a node at a place. -/
def attach (d : Draft) (i : Nat) (place : Place) : Draft :=
  let hang (p : Nat) (edit : Array Nat → Array Nat) : Draft :=
    { d with
      nodes := (d.nodes.modify p fun n => { n with children := edit n.children }).modify i
        fun n => { n with parent := some p } }
  match place with
  | .lastIn p => hang p (·.push i)
  | .before s =>
    match (d.nodes[s]?).bind DraftNode.parent with
    | some p => hang p fun children => children.flatMap fun c => if c = s then #[i, c] else #[c]
    | none => d

/-- Take a node off its place. -/
def detach (d : Draft) (i : Nat) : Draft :=
  match (d.nodes[i]?).bind DraftNode.parent with
  | some p =>
    { d with
      nodes := (d.nodes.modify p fun n => { n with children := n.children.filter (· ≠ i) }).modify i
        fun n => { n with parent := none } }
  | none => d

/-- Add a node that has no place yet. -/
def addLoose (d : Draft) (content : DraftContent) : Nat × Draft :=
  (d.nodes.size, { d with nodes := d.nodes.push ⟨content, none, #[]⟩ })

/-- Hang all children of a node below another one, which has none. -/
def moveChildren (d : Draft) (source target : Nat) : Draft :=
  match d.nodes[source]? with
  | none => d
  | some n =>
    let nodes := n.children.foldl
      (fun nodes c => nodes.modify c fun m => { m with parent := some target }) d.nodes
    { d with
      nodes := (nodes.modify source fun m => { m with children := #[] }).modify target
        fun m => { m with children := n.children } }

/-- The place before the table around, or inside the template around if that is nearer. -/
def fosterPlace (d : Draft) : List Nat → Place
  | [] => .lastIn (d.stack.getLast?.getD 0)
  | i :: outer =>
    if d.isNamed ["template"] i then .lastIn i
    else if d.isNamed ["table"] i then
      if ((d.nodes[i]?).bind DraftNode.parent).isSome then .before i
      else .lastIn (outer.head?.getD 0)
    else d.fosterPlace outer

/-- The place of what is put into an element. -/
def placeIn (d : Draft) (target : Nat) : Place :=
  if d.fostering && d.isNamed ["table", "tbody", "tfoot", "thead", "tr"] target then
    d.fosterPlace d.stack
  else .lastIn target

/-! ## The finished tree -/

/-- The markup of a node; the content of a template is no part of the tree.  `bound` is at least
    the number of nodes below. -/
def item? (d : Draft) : Nat → Nat → Option Item
  | 0, _ => none
  | bound + 1, i => do
    let n ← d.nodes[i]?
    match n.content with
    | .top => none
    | .doctype name => return .doctype name
    | .text value => return .text value
    | .comment value => return .comment value
    | .element v name attributes =>
      let inside := if v = .html ∧ name = "template" then #[] else n.children
      return .element name attributes (inside.toList.filterMap (item? d bound))

/-- The markup that has been built. -/
def finish (d : Draft) : Markup :=
  match d.nodes[0]? with
  | some n => ⟨n.children.toList.filterMap (d.item? d.nodes.size)⟩
  | none => ⟨[]⟩

end Draft

end Pinpoint.Markup
