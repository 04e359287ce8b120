/-
  A document: a tree together with its three landmarks, the `html` element, its head and its body.

  The landmarks are found by `finalize`, after the tree has been built; a tree may grow and be
  finalized again.
-/
import Pinpoint.Document.Traversal

namespace Pinpoint

/-- A tree and its landmarks. -/
structure Document where
  tree : Tree
  html : Option NodeId
  head : Option NodeId
  body : Option NodeId
  deriving Repr, DecidableEq

namespace Document

/-- A document without content, not finalized. -/
def empty : Document := ⟨.empty, none, none, none⟩

/-- The first of the nodes that is an element with this tag. -/
def firstTagged (t : Tree) (tag : String) (nodes : List NodeId) : Option NodeId :=
  nodes.find? fun i => t.tagName? i == some tag

/-- Find the landmarks: the first `html` element at the top, and the first `head` and `body` below
    it.  A head and a body once found stay. -/
def finalize (d : Document) : Document :=
  match firstTagged d.tree "html" (d.tree.elementChildren Tree.root) with
  | none => { d with html := none }
  | some h =>
    let inside := d.tree.elementChildren h
    { d with
      html := some h
      head := d.head.or (firstTagged d.tree "head" inside)
      body := d.body.or (firstTagged d.tree "body" inside) }

/-- Every element that hangs in the document, in document order. -/
def elements (d : Document) : List NodeId := d.tree.descendants Tree.root

/-- The first element in document order with this id. -/
def elementById? (d : Document) (id : String) : Option NodeId :=
  d.elements.find? fun i => ((d.tree.element? i).bind Element.id) == some id

end Document

end Pinpoint
