/-
  Walking through a tree: children, ancestors, siblings and everything below a node.

  Every walk follows links, and a tree of `n` nodes has no walk without repetition longer than
  `n`: that bound is what ends each walk.

  1. Children, along the sibling links.
  2. Parents and ancestors, along the parent links.
  3. The place of an element among its siblings.
  4. The elements below a node, in document order.
-/
import Pinpoint.Document.Tree

namespace Pinpoint.Tree

/-! ## Children -/

/-- Up to `bound` siblings, from a link on. -/
def siblingsFrom (t : Tree) : Nat → Option NodeId → List NodeId
  | 0, _ => []
  | _, none => []
  | bound + 1, some i =>
    match t.node? i with
    | none => []
    | some n => i :: siblingsFrom t bound n.next

/-- The children of a node, first to last. -/
def children (t : Tree) (i : NodeId) : List NodeId :=
  t.siblingsFrom t.size ((t.node? i).bind Node.firstChild)

/-- The children that are elements. -/
def elementChildren (t : Tree) (i : NodeId) : List NodeId := (t.children i).filter t.isElement

/-! ## Parents and ancestors -/

/-- The parent of a node. -/
def parent? (t : Tree) (i : NodeId) : Option NodeId := (t.node? i).bind Node.parent

/-- The parent of a node, if it is an element. -/
def parentElement? (t : Tree) (i : NodeId) : Option NodeId := (t.parent? i).filter t.isElement

/-- Up to `bound` element ancestors, the nearest first. -/
def ancestorsWithin (t : Tree) : Nat → NodeId → List NodeId
  | 0, _ => []
  | bound + 1, i =>
    match t.parentElement? i with
    | none => []
    | some p => p :: ancestorsWithin t bound p

/-- The element ancestors of a node, the nearest first. -/
def ancestors (t : Tree) (i : NodeId) : List NodeId := t.ancestorsWithin t.size i

/-! ## The place among siblings -/

/-- The number of element siblings before an element, and the number of elements among the
    siblings, itself included; none for a node without parent and for a node that is no element. -/
def elementPosition? (t : Tree) (i : NodeId) : Option (Nat × Nat) := do
  let p ← t.parent? i
  let siblings := t.elementChildren p
  let before ← siblings.idxOf? i
  return (before, siblings.length)

/-! ## Everything below a node -/

/-- Visit the waiting nodes in turn, the children of a node before what waits behind it; at most
    `bound` visits. -/
def visit (t : Tree) : Nat → List NodeId → List NodeId
  | 0, _ => []
  | _, [] => []
  | bound + 1, i :: waiting =>
    let later := visit t bound (t.children i ++ waiting)
    if t.isElement i then i :: later else later

/-- The elements below a node, in document order. -/
def descendants (t : Tree) (i : NodeId) : List NodeId := t.visit t.size (t.children i)

end Pinpoint.Tree
