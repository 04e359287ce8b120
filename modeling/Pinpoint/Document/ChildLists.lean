/-
  The shape of a tree as plain lists: for every node, its children in order.

  No links are kept, so nothing here can point astray: a child is added by writing it at the end
  of one list.  The same edits can be read on lists and on linked nodes.
-/
import Pinpoint.Document.Edit

namespace Pinpoint

/-- The children of each node, by the index of the node. -/
structure ChildLists where
  lists : List (List NodeId)
  deriving Repr, DecidableEq

namespace ChildLists

/-- The document node alone. -/
def empty : ChildLists := ⟨[[]]⟩

/-- The number of nodes. -/
def size (m : ChildLists) : Nat := m.lists.length

/-- The children of a node; none for a node that does not exist. -/
def children (m : ChildLists) (i : NodeId) : List NodeId := (m.lists[i]?).getD []

/-- Does the node stand in some list? -/
def isPlaced (m : ChildLists) (i : NodeId) : Bool := m.lists.any (·.contains i)

/-- A new node, without children. -/
def addNode (m : ChildLists) : ChildLists := ⟨m.lists ++ [[]]⟩

/-- Write `child` at the end of the children of `parent`, when both exist, they differ, and
    `child` stands in no list; otherwise nothing changes. -/
def append (m : ChildLists) (parent child : NodeId) : ChildLists :=
  if parent ≠ child ∧ parent < m.size ∧ child < m.size ∧ m.isPlaced child = false then
    ⟨m.lists.modify parent (· ++ [child])⟩
  else m

/-- The lists after one edit; attributes do not show in them. -/
def apply (m : ChildLists) : Edit → ChildLists
  | .element _ | .text _ | .comment _ | .doctype _ => m.addNode
  | .attribute _ _ _ => m
  | .append parent child => m.append parent child

/-- The lists that a list of edits makes of the document node alone. -/
def ofEdits (edits : List Edit) : ChildLists := edits.foldl apply empty

@[simp] theorem ofEdits_nil : ofEdits [] = empty := rfl

@[simp] theorem ofEdits_concat (edits : List Edit) (e : Edit) :
    ofEdits (edits ++ [e]) = (ofEdits edits).apply e := by
  simp [ofEdits]

example : (ofEdits [.element "a", .element "b", .append 0 2, .append 0 1, .append 1 2]).lists
    = [[2, 1], [], []] := by decide

end ChildLists

end Pinpoint
