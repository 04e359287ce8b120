/-
  From markup to a document.

  The tree of the markup is copied node by node, each node before its children.  Processing
  instructions and texts of white space only are left out.
-/
import Pinpoint.Document
import Pinpoint.Markup.Basic
import Pinpoint.Text.Blank

namespace Pinpoint

namespace Tree

/-- Set some attributes, one after the other. -/
def setAttributes (t : Tree) (i : NodeId) (attributes : List (String × String)) : Tree :=
  attributes.foldl (fun t a => t.setAttribute i a.1 a.2) t

mutual

/-- Hang a piece of markup below a node. -/
def addItem (t : Tree) (parent : NodeId) : Markup.Item → Tree
  | .doctype name =>
    let (i, t) := t.addDoctype name
    t.append parent i
  | .text value =>
    if Text.isBlankText value then t
    else
      let (i, t) := t.addText value
      t.append parent i
  | .comment value =>
    let (i, t) := t.addComment value
    t.append parent i
  | .element name attributes children =>
    let (i, t) := t.addElement name
    addItems ((t.setAttributes i attributes).append parent i) i children
  | .instruction _ _ => t

/-- Hang pieces of markup below a node, in order. -/
def addItems (t : Tree) (parent : NodeId) : List Markup.Item → Tree
  | [] => t
  | item :: rest => addItems (addItem t parent item) parent rest

end

end Tree

/-- The document of some markup, with its landmarks found. -/
def Document.ofMarkup (m : Markup) : Document :=
  Document.finalize { Document.empty with tree := Tree.empty.addItems Tree.root m.items }

end Pinpoint
