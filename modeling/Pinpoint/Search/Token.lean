/-
  The tokens of an element: the pieces of selector text that describe it.
-/
import Pinpoint.Search.Host
import Pinpoint.Search.Options

namespace Pinpoint

/-- The tokens of one element, by kind. -/
structure Tokens where
  /-- `#id`, for an id that is neither empty nor left out. -/
  id : Option String
  /-- The tag in lower case. -/
  tag : String
  /-- `.class`, each once, in the order of the class list. -/
  classes : List String
  /-- `[name="value"]`, in the order of the patterns that pick the names. -/
  attributes : List String
  /-- The place among the siblings, for an element that has a parent. -/
  nthChild : Option String
  deriving Repr, DecidableEq

/-- The token of a place among `count` siblings, `index` of them before it. -/
def nthChildToken (index count : Nat) : String :=
  if index = 0 then ":first-child"
  else if index + 1 = count then ":last-child"
  else ":nth-child(" ++ toString (index + 1) ++ ")"

/-- The token of an attribute. -/
def attributeToken (a : String × String) : String := "[" ++ a.1 ++ "=\"" ++ a.2 ++ "\"]"

/-- May this id or class be used?  It must not be empty or left out. -/
def Options.isUsable (o : Options) (value : String) : Bool :=
  !value.isEmpty && !o.isExcluded value

/-- For each pattern, the token of the first attribute whose name matches. -/
def attributeTokens (patterns : List Pattern) (attributes : List (String × String)) :
    List String :=
  patterns.filterMap fun p => (attributes.find? fun a => p.isMatch a.1).map attributeToken

/-- The tokens of an element. -/
def Host.tokens {E ε : Type} (h : Host E ε) (o : Options) (e : E) : Tokens where
  id := ((h.id e).filter o.isUsable).map ("#" ++ ·)
  tag := Ascii.lower (h.tagName e)
  classes := distinct (((h.classes e).filter o.isUsable).map ("." ++ ·))
  attributes := attributeTokens o.attributes (h.attributes e)
  nthChild := (h.position e).map fun p => nthChildToken p.1 p.2

example : nthChildToken 0 1 = ":first-child" ∧ nthChildToken 4 5 = ":last-child" := by decide
example : nthChildToken 2 5 = ":nth-child(3)" := by decide

end Pinpoint
