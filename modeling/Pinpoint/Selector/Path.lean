/-
  What a match of an alternative means: a row of elements, one for each compound, such that each
  compound holds at its element and neighbours stand to each other as the links say.

  Nothing is said about how such a row is found; `Complex.matchesAt` looks for one from the right.
-/
import Pinpoint.Document.Order
import Pinpoint.Selector.Matching

namespace Pinpoint

/-- The node `a` stands to the left of `i` as the combinator asks. -/
def Combinator.Links (t : Tree) : Combinator → NodeId → NodeId → Prop
  | .child, a, i => t.parentElement? i = some a
  | .descendant, a, i => t.ElementAbove a i

/-- The alternative holds along a row of nodes: compound by compound, and link by link.  The link
    of the first part is not asked for. -/
structure Complex.HoldsAlong (t : Tree) (x : Complex) (path : List NodeId) : Prop where
  length_eq : path.length = x.length
  compounds : ∀ (k : Nat) (p : Part) (i : NodeId), x[k]? = some p → path[k]? = some i →
    Compound.matchesAt t i p.compound = true
  links : ∀ (k : Nat) (p : Part) (a i : NodeId), x[k + 1]? = some p → path[k]? = some a →
    path[k + 1]? = some i → (p.combinator.getD .descendant).Links t a i

end Pinpoint
