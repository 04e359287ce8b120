/-
  The tree of a document, kept as an array of nodes that know each other by index.

  Node 0 is the document itself.  A node holds five links (its parent, its first and last child,
  its neighbours among the siblings), so that a child is added at the end of a list of any length
  in a fixed number of writes.

  1. Nodes and trees.
  2. Making nodes: a new node takes the next index and hangs nowhere.
  3. Attributes.
  4. `append`: the one way to hang a node below another.  A node is hung once: a node that has a
     parent, a node hung below itself, and an index outside the tree change nothing.
-/
import Pinpoint.Document.Element

namespace Pinpoint

/-! ## Nodes and trees -/

/-- The index of a node in its tree. -/
abbrev NodeId := Nat

/-- What a node is. -/
inductive Content
  | document
  | doctype (name : NameId)
  | element (data : Element)
  | text (value : String)
  | comment (value : String)
  deriving Repr, DecidableEq

/-- A node: its content and its links. -/
structure Node where
  content : Content
  parent : Option NodeId
  firstChild : Option NodeId
  lastChild : Option NodeId
  previous : Option NodeId
  next : Option NodeId
  deriving Repr, DecidableEq

namespace Node

/-- A node that hangs nowhere and has no children. -/
def detached (content : Content) : Node := ⟨content, none, none, none, none, none⟩

/-- The element data of an element node. -/
def element? (n : Node) : Option Element :=
  match n.content with
  | .element e => some e
  | _ => none

/-- Is the node an element? -/
def isElement (n : Node) : Bool := n.element?.isSome

/-- The text of a text node. -/
def text? (n : Node) : Option String :=
  match n.content with
  | .text s => some s
  | _ => none

end Node

/-- The nodes by index, and the names they use. -/
structure Tree where
  nodes : Array Node
  names : NameTable
  deriving Repr, DecidableEq

namespace Tree

/-- A tree that holds the document node alone. -/
def empty : Tree := ⟨#[Node.detached .document], .standard⟩

/-- The document node. -/
def root : NodeId := 0

/-- The number of nodes. -/
def size (t : Tree) : Nat := t.nodes.size

/-- The node at an index. -/
def node? (t : Tree) (i : NodeId) : Option Node := t.nodes[i]?

/-- The element data at an index, if there is an element. -/
def element? (t : Tree) (i : NodeId) : Option Element := (t.node? i).bind Node.element?

/-- Is there an element at this index? -/
def isElement (t : Tree) (i : NodeId) : Bool := (t.element? i).isSome

/-- The name of an element: its tag. -/
def tagName? (t : Tree) (i : NodeId) : Option String :=
  (t.element? i).map fun e => t.names.resolve e.name

/-! ## Making nodes -/

/-- Add a node under the next index. -/
def addNode (t : Tree) (content : Content) : NodeId × Tree :=
  (t.nodes.size, { t with nodes := t.nodes.push (.detached content) })

/-- A new element; tags are kept in lower case. -/
def addElement (t : Tree) (tag : String) : NodeId × Tree :=
  let (name, names) := t.names.intern (Ascii.lower tag)
  addNode { t with names } (.element (.named name))

/-- A new text node. -/
def addText (t : Tree) (value : String) : NodeId × Tree := t.addNode (.text value)

/-- A new comment. -/
def addComment (t : Tree) (value : String) : NodeId × Tree := t.addNode (.comment value)

/-- A new document type; its name is kept as it is. -/
def addDoctype (t : Tree) (name : String) : NodeId × Tree :=
  let (name, names) := t.names.intern name
  addNode { t with names } (.doctype name)

/-! ## Attributes -/

/-- Change the node at an index, if there is one. -/
def modify (t : Tree) (i : NodeId) (f : Node → Node) : Tree :=
  { t with nodes := t.nodes.modify i f }

/-- Set an attribute.  Only elements carry attributes, but the name is entered into the table
    whatever the node is. -/
def setAttribute (t : Tree) (i : NodeId) (name value : String) : Tree :=
  let (nameId, names) := t.names.intern name
  modify { t with names } i fun n =>
    match n.content with
    | .element e => { n with content := .element (e.setAttribute nameId name value) }
    | _ => n

/-! ## Hanging a node below another -/

/-- Make `child` the last child of `parent`, when both exist, they differ, and `child` hangs
    nowhere yet; otherwise nothing changes. -/
def append (t : Tree) (parent child : NodeId) : Tree :=
  match t.node? parent, t.node? child with
  | some p, some c =>
    if parent = child || c.parent.isSome then t
    else
      let t := t.modify child fun n =>
        { n with parent := some parent, previous := p.lastChild, next := none }
      let t :=
        match p.lastChild with
        | some last => t.modify last fun n => { n with next := some child }
        | none => t.modify parent fun n => { n with firstChild := some child }
      t.modify parent fun n => { n with lastChild := some child }
  | _, _ => t

end Tree

end Pinpoint
