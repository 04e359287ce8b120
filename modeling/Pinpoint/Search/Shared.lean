/-
  One selector for several elements.

  The chains of the single elements are laid over each other, and a place keeps its segment where
  all of them agree.  Where they disagree in the innermost place, the candidates that all elements
  share are tried there in turn.  The chain must find exactly the elements, and is then pruned.
-/
import Pinpoint.Search.Single

namespace Pinpoint

/-- The chain that keeps a segment where all chains have the same one; it is as long as the first. -/
def Chain.meet (first : Chain) (others : List Chain) : Chain :=
  ⟨(List.range first.length).map fun i =>
    (first.get? i).filter fun s => others.all fun c => c.get? i == some s⟩

namespace Host

variable {E ε : Type} [DecidableEq E]

/-- The candidates that all elements share, in the order they have for the first. -/
def sharedCandidates (h : Host E ε) (o : Options) (first : E) (others : List E) : List String :=
  others.foldl
    (fun shared e =>
      let own := h.leafCandidates o e
      shared.filter own.contains)
    (h.leafCandidates o first)

/-- The chain with its innermost place filled: it is left as it is when a segment is there, and
    takes the first shared candidate that makes the chain find the targets otherwise. -/
def withLeaf? (h : Host E ε) (targets : List E) (shared : List String) (c : Chain) :
    Option Chain :=
  match c.length with
  | 0 => none
  | last + 1 =>
    match c.get? last with
    | some _ => some c
    | none =>
      (shared.map fun candidate => c.set last (some candidate)).find? fun filled =>
        h.isSameSet targets filled.render

/-- One selector that finds exactly the elements of a list; an element listed twice counts once. -/
def commonSelector? (h : Host E ε) (o : Options) (elements : List E) : Option String :=
  match distinct elements with
  | [] => none
  | first :: others =>
    let targets := first :: others
    match targets.mapM (h.uniqueChain? o) with
    | none => none
    | some [] => none
    | some (c :: cs) => do
      let chain ← h.withLeaf? targets (h.sharedCandidates o first others) (c.meet cs)
      if h.isSameSet targets chain.render then
        (h.minimize targets chain).map Chain.render
      else none

end Host

end Pinpoint
