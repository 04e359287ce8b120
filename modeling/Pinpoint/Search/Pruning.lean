/-
  Leaving out the segments of a chain that are not needed.

  Segments are tried from the outermost to the innermost, and one that can be left out is left out
  for good.  The first sweep tries tags and places among siblings only, the second one all that is
  left.
-/
import Pinpoint.Search.Chain
import Pinpoint.Search.Resolution

namespace Pinpoint.Host

variable {E ε : Type} [DecidableEq E]

/-- Leave out one segment, if it may be tried and the chain still finds the targets without it. -/
def dropAt (h : Host E ε) (targets : List E) (mayTry : Segment → Bool) (c : Chain) (i : Nat) :
    Chain :=
  match c.get? i with
  | none => c
  | some s =>
    if mayTry s && h.resolvesTo targets (c.without i).render then c.without i else c

/-- One sweep over all places. -/
def sweep (h : Host E ε) (targets : List E) (mayTry : Segment → Bool) (c : Chain) : Chain :=
  (List.range c.length).foldl (h.dropAt targets mayTry) c

/-- Both sweeps. -/
def prune (h : Host E ε) (targets : List E) (c : Chain) : Chain :=
  h.sweep targets (fun _ => true) (h.sweep targets Segment.isLowSpecificity c)

/-- The chain without the segments that are not needed; none when there are no targets, when the
    chain does not find them, or when nothing would be left. -/
def minimize (h : Host E ε) (targets : List E) (c : Chain) : Option Chain :=
  if targets.isEmpty || !h.resolvesTo targets c.render then none
  else
    let pruned := h.prune targets c
    if pruned.isEmpty then none else some pruned

end Pinpoint.Host
