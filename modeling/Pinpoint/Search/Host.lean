/-
  What a search asks of a document.

  A search never looks at a tree.  It asks a host for the names, attributes and classes of an
  element, for its place among the others, and for the elements that a selector matches.

  1. Scopes and hosts.
  2. What follows from attributes, parents and children, for hosts that know no better.
-/
namespace Pinpoint

/-! ## Scopes and hosts -/

/-- Where a selector is asked for. -/
inductive Scope (E : Type)
  /-- All elements of the document. -/
  | document
  /-- The element children of a parent; without a parent, the elements at the top. -/
  | childrenOf (parent : Option E)
  deriving Repr, DecidableEq

/-- A document with elements `E`, which refuses selectors with errors `ε`. -/
structure Host (E ε : Type) where
  tagName : E → String
  /-- Names and values, in document order. -/
  attributes : E → List (String × String)
  classes : E → List String
  id : E → Option String
  /-- The parent element; none for an element at the top. -/
  parent : E → Option E
  /-- The element children; without a parent, the elements at the top. -/
  children : Option E → List E
  /-- The number of element siblings before an element, and of all of them with itself. -/
  position : E → Option (Nat × Nat)
  /-- The element, its parent, and so on to the top. -/
  lineage : E → List E
  /-- The elements of a scope that a selector matches, in document order. -/
  query : String → Scope E → Except ε (List E)

/-! ## What follows from the rest -/

/-- The id among the attributes: the value of the first one named "id". -/
def idAmong (attributes : List (String × String)) : Option String :=
  (attributes.find? fun a => a.1 == "id").map (·.2)

/-- The position of an element among the children of its parent. -/
def positionAmong {E : Type} [DecidableEq E] (parent : E → Option E) (children : Option E → List E)
    (e : E) : Option (Nat × Nat) := do
  let p ← parent e
  let siblings := children (some p)
  let before ← siblings.idxOf? e
  return (before, siblings.length)

/-- An element and its ancestors, at most `bound` of them, the nearest first. -/
def climb {E : Type} (parent : E → Option E) : Nat → E → List E
  | 0, e => [e]
  | bound + 1, e =>
    match parent e with
    | none => [e]
    | some p => e :: climb parent bound p

end Pinpoint
