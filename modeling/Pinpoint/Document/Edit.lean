/-
  Trees and documents by their history.

  A tree in use has been made from the empty one by a list of edits, and nothing else changes it;
  a document has been finalized at some points between them.  So what is to hold of every tree in
  use is shown of every list of edits.

  1. Edits and the tree after them.
  2. Steps of a document, which are edits and calls of `finalize`.
-/
import Pinpoint.Document

namespace Pinpoint

/-! ## Edits -/

/-- One change of a tree. -/
inductive Edit
  | element (tag : String)
  | text (value : String)
  | comment (value : String)
  | doctype (name : String)
  | attribute (node : NodeId) (name value : String)
  | append (parent child : NodeId)
  deriving Repr, DecidableEq

namespace Tree

/-- The tree after one edit. -/
def apply (t : Tree) : Edit → Tree
  | .element tag => (t.addElement tag).2
  | .text value => (t.addText value).2
  | .comment value => (t.addComment value).2
  | .doctype name => (t.addDoctype name).2
  | .attribute node name value => t.setAttribute node name value
  | .append parent child => t.append parent child

/-- The tree that a list of edits makes of the empty one. -/
def ofEdits (edits : List Edit) : Tree := edits.foldl apply empty

@[simp] theorem ofEdits_nil : ofEdits [] = empty := rfl

@[simp] theorem ofEdits_concat (edits : List Edit) (e : Edit) :
    ofEdits (edits ++ [e]) = (ofEdits edits).apply e := by
  simp [ofEdits]

example : (ofEdits [.element "P", .text "x", .append 1 2, .append 0 1, .append 2 1]).children 0
    = [1] := by decide

end Tree

/-! ## Steps of a document -/

/-- An edit of the tree, or a new search for the landmarks. -/
inductive Step
  | edit (e : Edit)
  | finalize
  deriving Repr, DecidableEq

namespace Document

/-- The document after one step; an edit leaves the landmarks as they are. -/
def apply (d : Document) : Step → Document
  | .edit e => { d with tree := d.tree.apply e }
  | .finalize => d.finalize

/-- The document that a list of steps makes of the empty one. -/
def ofSteps (steps : List Step) : Document := steps.foldl apply empty

@[simp] theorem ofSteps_nil : ofSteps [] = empty := rfl

@[simp] theorem ofSteps_concat (steps : List Step) (s : Step) :
    ofSteps (steps ++ [s]) = (ofSteps steps).apply s := by
  simp [ofSteps]

end Document

end Pinpoint
