/-
  Selectors.

  A selector is a list of alternatives; an alternative is a row of compounds read from left to
  right, each joined to the one before it by a combinator; a compound is a list of conditions on
  one element.
-/
import Pinpoint.Selector.Nth

namespace Pinpoint

/-- How a compound is joined to the one on its left. -/
inductive Combinator
  /-- Anywhere below. -/
  | descendant
  /-- Directly below. -/
  | child
  deriving Repr, DecidableEq

/-- How the value of an attribute is compared with an expected text. -/
inductive Comparison
  | equals
  | includesWord
  | equalsOrDash
  | startsWith
  | endsWith
  | contains
  deriving Repr, DecidableEq

/-- A condition on one attribute; without a comparison, that it is there. -/
structure AttributeTest where
  name : String
  comparison : Option (Comparison × String)
  ignoreCase : Bool
  deriving Repr, DecidableEq

/-- Conditions on the place of an element in the tree. -/
inductive PseudoClass
  | root
  | empty
  | firstChild
  | lastChild
  | onlyChild
  | nthChild (e : Nth)
  | nthLastChild (e : Nth)
  deriving Repr, DecidableEq

/-- One condition on one element. -/
inductive Component
  | universal
  | tag (name : String)
  | id (value : String)
  | className (value : String)
  | attribute (test : AttributeTest)
  | pseudo (p : PseudoClass)
  deriving Repr, DecidableEq

/-- Conditions that hold of one element together. -/
abbrev Compound := List Component

/-- A compound and its link to the left; a part without a link stands at the left end, and counts
    as a descendant anywhere else. -/
structure Part where
  combinator : Option Combinator
  compound : Compound
  deriving Repr, DecidableEq

/-- Compounds from left to right. -/
abbrev Complex := List Part

/-- Alternatives. -/
abbrev Selector := List Complex

end Pinpoint
