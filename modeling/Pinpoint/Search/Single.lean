/-
  The shortest selector of one element.

  The search goes through the levels.  On each level every element of the lineage, from the top
  down, gets the best candidate that tells it from its siblings; the segments form a chain.  The
  first level whose chain finds the element and nothing else, and can be pruned, gives the answer.
-/
import Pinpoint.Search.Candidate
import Pinpoint.Search.Pruning

namespace Pinpoint.Host

variable {E ε : Type} [DecidableEq E]

/-- The best candidate that tells an element from its siblings. -/
def segment? (h : Host E ε) (o : Options) (kinds : List Kind) (e : E) (t : Tokens) :
    Option Segment :=
  (t.candidates o kinds).find? (h.isUniqueAmongSiblings e)

/-- The chain of a level for a lineage from the top down; none when the top gets no segment. -/
def chainAt? (h : Host E ε) (o : Options) (lineage : List (E × Tokens)) (kinds : List Kind) :
    Option Chain :=
  let slots := lineage.map fun (e, t) => h.segment? o kinds e t
  if slots.head? = some none then none else some ⟨slots⟩

/-- The elements of a lineage from the top down, with their tokens. -/
def tokenLineage (h : Host E ε) (o : Options) (e : E) : List (E × Tokens) :=
  (h.lineage e).reverse.map fun a => (a, h.tokens o a)

/-- The chain of a level, if it finds the element and nothing else. -/
def resolvingChain? (h : Host E ε) (o : Options) (e : E) (lineage : List (E × Tokens))
    (kinds : List Kind) : Option Chain :=
  (h.chainAt? o lineage kinds).filter fun c => h.isUnique e c.render

/-- The chain of the first level that resolves, before pruning. -/
def uniqueChain? (h : Host E ε) (o : Options) (e : E) : Option Chain :=
  let lineage := h.tokenLineage o e
  o.levels.findSome? (h.resolvingChain? o e lineage)

/-- The selector of a pruned chain, unless it is empty. -/
def prunedSelector? (h : Host E ε) (targets : List E) (c : Chain) : Option String :=
  ((h.minimize targets c).map Chain.render).filter fun s => !s.isEmpty

/-- The shortest selector found for an element. -/
def shortestSelector? (h : Host E ε) (o : Options) (e : E) : Option String :=
  let lineage := h.tokenLineage o e
  o.levels.findSome? fun kinds =>
    (h.resolvingChain? o e lineage kinds).bind (h.prunedSelector? [e])

end Pinpoint.Host
