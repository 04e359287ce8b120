/-
  What the walks through a tree are about, said without a walk.

  1. `Above`: a node stands above another when parent links lead to it; a tree is `Acyclic` when
     no node stands above itself.
  2. `InOrder`: the elements in and below some nodes in document order, by recursion on the
     children: a node comes before what is below it, and that before its later siblings.
-/
import Pinpoint.Document.Traversal

namespace Pinpoint.Tree

/-! ## Above -/

/-- The node `a` stands above `i`: it is the parent, or above the parent. -/
inductive Above (t : Tree) : NodeId → NodeId → Prop
  | parent {a i : NodeId} (h : t.parent? i = some a) : Above t a i
  | further {a p i : NodeId} (h : t.parent? i = some p) (above : Above t a p) : Above t a i

/-- The element `a` stands above `i`, with nothing but elements between them. -/
inductive ElementAbove (t : Tree) : NodeId → NodeId → Prop
  | parent {a i : NodeId} (h : t.parentElement? i = some a) : ElementAbove t a i
  | further {a p i : NodeId} (h : t.parentElement? i = some p) (above : ElementAbove t a p) :
      ElementAbove t a i

/-- No node stands above itself. -/
def Acyclic (t : Tree) : Prop := ∀ i, ¬ t.Above i i

theorem Above.trans {t : Tree} {a b i : NodeId} (h : t.Above a b) (hb : t.Above b i) :
    t.Above a i := by
  induction hb with
  | parent hp => exact .further hp h
  | further hp _ ih => exact .further hp ih

theorem parent?_of_parentElement? {t : Tree} {i p : NodeId} (h : t.parentElement? i = some p) :
    t.parent? i = some p ∧ t.isElement p = true := Option.filter_eq_some_iff.1 h

theorem ElementAbove.above {t : Tree} {a i : NodeId} (h : t.ElementAbove a i) : t.Above a i := by
  induction h with
  | parent hp => exact .parent (parent?_of_parentElement? hp).1
  | further hp _ ih => exact .further (parent?_of_parentElement? hp).1 ih

/-! ## Document order -/

/-- `out` lists the elements among `nodes` and below them, in document order. -/
inductive InOrder (t : Tree) : (nodes out : List NodeId) → Prop
  | nil : InOrder t [] []
  | cons {i : NodeId} {nodes below later : List NodeId} (hb : InOrder t (t.children i) below)
      (hl : InOrder t nodes later) :
      InOrder t (i :: nodes) ((if t.isElement i then [i] else []) ++ below ++ later)

/-- The order is determined by the nodes. -/
theorem InOrder.unique {t : Tree} {nodes out out' : List NodeId} (h : t.InOrder nodes out)
    (h' : t.InOrder nodes out') : out = out' := by
  induction h generalizing out' with
  | nil => cases h'; rfl
  | cons _ _ ihb ihl =>
    cases h' with
    | cons hb hl => rw [ihb hb, ihl hl]

end Pinpoint.Tree
