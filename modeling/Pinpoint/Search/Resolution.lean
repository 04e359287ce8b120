/-
  Does a selector find exactly the elements it is meant for?

  A selector that the host refuses, and the empty text, find nothing and are meant for nothing.
-/
import Pinpoint.Search.Host
import Pinpoint.Search.Options

namespace Pinpoint.Host

variable {E ε : Type} [DecidableEq E]

/-- What a selector finds in a scope; none for the empty text and for a selector that the host
    refuses. -/
def found? (h : Host E ε) (selector : String) (scope : Scope E) : Option (List E) :=
  if selector.isEmpty then none
  else
    match h.query selector scope with
    | .ok found => some found
    | .error _ => none

/-- The whole document has this one element for the selector. -/
def isUnique (h : Host E ε) (e : E) (selector : String) : Bool :=
  h.found? selector .document == some [e]

/-- Among its siblings, the element is the only one for the selector. -/
def isUniqueAmongSiblings (h : Host E ε) (e : E) (selector : String) : Bool :=
  h.found? selector (.childrenOf (h.parent e)) == some [e]

/-- The whole document has exactly these elements for the selector, in whatever order; an element
    listed twice counts once. -/
def isSameSet (h : Host E ε) (elements : List E) (selector : String) : Bool :=
  match h.found? selector .document with
  | none => false
  | some found =>
    found.length == (distinct elements).length && found.all fun e => elements.contains e

/-- The selector finds exactly the targets. -/
def resolvesTo (h : Host E ε) (targets : List E) (selector : String) : Bool :=
  match targets with
  | [e] => h.isUnique e selector
  | targets => h.isSameSet targets selector

end Pinpoint.Host
