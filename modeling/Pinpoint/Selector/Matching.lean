/-
  Which elements of a tree a selector matches.

  A compound is tested against one element.  An alternative is tested from its right end: the last
  compound must match the element itself, and what stands to the left of it must match the parent
  element, or any element ancestor, as the link says.  Every ancestor is tried, so a match found
  too near does not hide one further up.

  1. One condition, one compound.
  2. Alternatives and selectors.
-/
import Pinpoint.Document.Traversal
import Pinpoint.Selector.Comparison

namespace Pinpoint

/-! ## One condition, one compound -/

namespace Tree

/-- The value of the first attribute whose name is `name` up to ASCII case. -/
def attribute? (t : Tree) (e : Element) (name : String) : Option String :=
  (e.attributes.find? fun a => Ascii.sameLetters (t.names.resolve a.name) name).map (·.value)

/-- The place among the element siblings, counted from 1, and their number; an element that hangs
    nowhere counts as an only child. -/
def siblingPosition (t : Tree) (i : NodeId) : Nat × Nat :=
  match t.elementPosition? i with
  | some (before, count) => (before + 1, count)
  | none => (1, 1)

/-- True for a child that keeps its parent from being empty: an element, or text with content. -/
def isSubstantial (t : Tree) (i : NodeId) : Bool :=
  match t.node? i with
  | none => false
  | some n => n.isElement || (n.text?.map (fun s => !s.isEmpty)).getD false

end Tree

/-- Does the condition on the place in the tree hold at this element?  Positions are 32-bit
    numbers. -/
def PseudoClass.matchesAt (t : Tree) (i : NodeId) : PseudoClass → Bool
  | .root => (t.parentElement? i).isNone
  | .empty => (t.children i).all fun c => !t.isSubstantial c
  | .firstChild => (t.siblingPosition i).1 == 1
  | .lastChild => (t.siblingPosition i).1 == (t.siblingPosition i).2
  | .onlyChild => (t.siblingPosition i).2 == 1
  | .nthChild e => e.picks (Int32.ofNat (t.siblingPosition i).1)
  | .nthLastChild e =>
    e.picks (Int32.ofNat ((t.siblingPosition i).2 - (t.siblingPosition i).1 + 1))

/-- Does the condition hold at the element `i`, whose data is `e`? -/
def Component.matchesAt (t : Tree) (i : NodeId) (e : Element) : Component → Bool
  | .universal => true
  | .tag name => Ascii.sameLetters (t.names.resolve e.name) name
  | .id value => e.id == some value
  | .className value => e.hasClass value
  | .attribute test => test.accepts (t.attribute? e test.name)
  | .pseudo p => p.matchesAt t i

/-- Do all conditions hold at this node?  Nothing but an element matches. -/
def Compound.matchesAt (t : Tree) (i : NodeId) (c : Compound) : Bool :=
  match t.element? i with
  | none => false
  | some e => c.all (·.matchesAt t i e)

/-! ## Alternatives and selectors -/

/-- Parts from right to left, the first of them tested at the node itself. -/
def matchesLeftward (t : Tree) : List Part → NodeId → Bool
  | [], _ => false
  | [p], i => p.compound.matchesAt t i
  | p :: q :: left, i =>
    p.compound.matchesAt t i &&
      match p.combinator.getD .descendant with
      | .child => (t.parentElement? i).any (matchesLeftward t (q :: left))
      | .descendant => (t.ancestors i).any (matchesLeftward t (q :: left))

/-- Does the alternative match this node? -/
def Complex.matchesAt (t : Tree) (i : NodeId) (x : Complex) : Bool :=
  matchesLeftward t x.reverse i

/-- Does some alternative match this node? -/
def Selector.matchesAt (t : Tree) (i : NodeId) (s : Selector) : Bool := s.any (·.matchesAt t i)

end Pinpoint
