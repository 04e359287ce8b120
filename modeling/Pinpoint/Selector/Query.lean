/-
  Asking a document for the elements that a selector text matches.

  A text that is no selector is an error, whatever the document holds.
-/
import Pinpoint.Document
import Pinpoint.Selector.Matching
import Pinpoint.Selector.Reader

namespace Pinpoint.Document

/-- The nodes of a list that match, in the order of the list. -/
def filterMatching (d : Document) (nodes : List NodeId) (selector : String) :
    Except SelectorError (List NodeId) := do
  let s ← Selector.parse selector
  return nodes.filter fun i => s.matchesAt d.tree i

/-- The elements below `start` that match, in document order. -/
def queryAll (d : Document) (start : NodeId) (selector : String) :
    Except SelectorError (List NodeId) :=
  d.filterMatching (d.tree.descendants start) selector

/-- The first element below `start` that matches. -/
def query? (d : Document) (start : NodeId) (selector : String) :
    Except SelectorError (Option NodeId) := do
  let s ← Selector.parse selector
  return (d.tree.descendants start).find? fun i => s.matchesAt d.tree i

/-- Does this node match? -/
def isMatch (d : Document) (i : NodeId) (selector : String) : Except SelectorError Bool := do
  let s ← Selector.parse selector
  return s.matchesAt d.tree i

/-- The innermost match among an element and its ancestors. -/
def closest? (d : Document) (i : NodeId) (selector : String) :
    Except SelectorError (Option NodeId) := do
  let s ← Selector.parse selector
  let upward := if d.tree.isElement i then i :: d.tree.ancestors i else []
  return upward.find? fun j => s.matchesAt d.tree j

end Pinpoint.Document
