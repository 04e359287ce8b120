/-
  What a document answers as a host.

  1. **A document over a tree without circles is a regular host**: its answers are parts of lists
     that hold no node twice.
  2. The answer to a chain of compounds is what its parts match among the attached elements, so the
     chain finds its targets when these matches are the targets (`resolvesTo_render_iff`).
-/
import Pinpoint.Proofs.Document.Descendants
import Pinpoint.Proofs.Search.Rendering
import Pinpoint.Proofs.Search.Resolution

namespace Pinpoint.Document

variable {d : Document}

/-! ## Regularity

  What the theorems about searches ask of a host, shown of documents. -/

/-- An answer is the part of a list that the selector matches, if the text is one. -/
theorem filterMatching_eq_ok_iff {nodes found : List NodeId} {s : String} :
    d.filterMatching nodes s = .ok found ↔
      ∃ x, Selector.parse s = .ok x ∧ found = nodes.filter fun i => x.matchesAt d.tree i := by
  unfold filterMatching
  cases Selector.parse s with
  | error e => simp [bind, Except.bind]
  | ok x => simp [bind, Except.bind, pure, Except.pure, eq_comm]

/-- What climbs from parent to parent goes up through elements. -/
theorem elementAbove_of_parents {i a : NodeId}
    (h : Relation.TransGen (fun i p => d.host.parent i = some p) i a) :
    d.tree.ElementAbove a i := by
  induction h with
  | single hp => exact .parent hp
  | tail _ hp ih => exact (Tree.ElementAbove.parent hp).trans ih

/-- **A document over a tree without circles is regular.**  Its answers are parts of the walk
    through the document or of a list of children, and neither has a node twice. -/
theorem regular_host (ht : d.tree.Reachable) (ha : d.tree.Acyclic) : d.host.Regular where
  nodup_query s scope found hq := by
    cases scope with
    | document =>
      obtain ⟨x, -, rfl⟩ := filterMatching_eq_ok_iff.1 hq
      exact (ht.nodup_descendants (ha Tree.root)).filter _
    | childrenOf parent =>
      obtain ⟨x, -, rfl⟩ := filterMatching_eq_ok_iff.1 hq
      exact (ht.nodup_elementChildren _).filter _
  parents_end e he := ha e (elementAbove_of_parents he).above

/-! ## Chains of compounds

  For a document the text of a chain need not be read each time: its parts are known. -/

variable {c : Chain} {targets : List NodeId}

/-- The answer to a chain of compounds: among the attached elements, those that its parts match, in
    document order. -/
theorem query_render (hc : c.OfCompounds) (hne : ∃ i s, c.get? i = some s) :
    d.host.query c.render .document =
      .ok (d.elements.filter fun e => c.parts.matchesAt d.tree e) := by
  refine filterMatching_eq_ok_iff.2 ⟨_, hc.parse_render hne, ?_⟩
  simp only [Selector.matchesAt, List.any_cons, List.any_nil, Bool.or_false]
  rfl

/-- A chain of compounds finds its targets when its matches among the attached elements are the
    targets.  Nothing is said of order or of repetitions among the targets; the answer has none. -/
theorem resolvesTo_render_iff (ht : d.tree.Reachable) (ha : d.tree.Acyclic) (hc : c.OfCompounds)
    (hne : ∃ i s, c.get? i = some s) :
    d.host.resolvesTo targets c.render = true ↔
      ∀ e, (e ∈ d.elements ∧ c.parts.matchesAt d.tree e = true) ↔ e ∈ targets := by
  rw [Host.resolvesTo_iff_of_nodup fun found => (regular_host ht ha).nodup_query _ _ found,
    query_render hc hne]
  simp only [ne_eq, hc.render_ne_empty hne, not_false_eq_true, true_and, Except.ok.injEq,
    exists_eq_left', List.mem_filter]

end Pinpoint.Document
