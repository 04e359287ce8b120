/-
  Lines of segments from the top of a document down to an element.

  1. **A segment singles an element out** when it reads as one compound that, of all attached
     elements below the same parent element, holds at this one only; without a parent element, of
     all attached elements.
  2. **The anchoring theorem** (`matchesAt_line_iff`): when the segment of an element and those of
     all elements above it single them out, the line of these segments matches this element and no
     other attached one.  The induction goes down from the top: where the line above matches the
     parent alone, the last segment is left to choose among its children.
  3. So the line is a chain that finds the element alone.
-/
import Pinpoint.Proofs.Search.DocumentHost
import Pinpoint.Proofs.Selector.Matching

namespace Pinpoint.Document

variable {d : Document} {e i : NodeId} {seg : NodeId → Segment}

/-! ## Singling out -/

/-- The segment holds at `e` and at no other attached element that has the same parent element. -/
def SinglesOut (d : Document) (e : NodeId) (s : Segment) : Prop :=
  ∃ k, Selector.parse s = .ok [[⟨none, k⟩]] ∧
    ∀ i ∈ d.elements, (∀ p, d.tree.parentElement? e = some p → d.tree.parentElement? i = some p) →
      (Compound.matchesAt d.tree i k = true ↔ i = e)

/-- The segments of an element and of those above it, from the top down. -/
def line (d : Document) (seg : NodeId → Segment) (e : NodeId) : Chain :=
  .ofSegments ((d.host.lineage e).reverse.map seg)

/-- The slots of a line are all taken: the segments from the top down, the element's own last. -/
theorem line_slots (d : Document) (seg : NodeId → Segment) (e : NodeId) :
    (d.line seg e).slots = ((d.tree.ancestors e).reverse.map seg).map some ++ [some (seg e)] := by
  rw [line, Chain.ofSegments, Tree.lineage_eq, List.reverse_cons, List.map_append, List.map_append]
  rfl

/-- Without a parent element the line is the segment. -/
theorem parts_line_of_parentElement?_none (hp : d.tree.parentElement? e = none) :
    (d.line seg e).parts = (seg e).reading := by
  rw [Chain.parts, line_slots, Tree.ancestors_of_parentElement?_none hp]
  exact List.append_nil _

/-- Behind a slot that is taken, the next segment is adjacent; only empty slots leave a gap. -/
theorem after_map_some {segments : List Segment} (h : segments ≠ []) (j : Chain.Joint) :
    j.after (segments.map some) = .adjacent := by
  induction segments generalizing j with
  | nil => exact absurd rfl h
  | cons s segments ih =>
    cases segments with
    | nil => rfl
    | cons s' segments => exact ih (by simp) .adjacent

/-- Below a parent element, the line is the parent's and one more part, linked as a child. -/
theorem parts_line_of_parentElement? (ht : d.tree.Reachable) (hw : d.tree.WayUpEnds e) {p : NodeId}
    (hp : d.tree.parentElement? e = some p) :
    (d.line seg e).parts = (d.line seg p).parts ++ (seg e).reading.relink .child := by
  have hslots : (d.line seg e).slots = (d.line seg p).slots ++ [some (seg e)] := by
    rw [line_slots, line_slots, ht.ancestors_of_parentElement? hw hp, List.reverse_cons,
      List.map_append, List.map_append]
    rfl
  have hafter : Chain.Joint.start.after (d.line seg p).slots = .adjacent :=
    after_map_some (by simp [Tree.lineage_eq]) .start
  rw [Chain.parts, hslots, Chain.partsFrom_append, hafter]
  exact congrArg _ (List.append_nil _)

/-! ## Anchoring -/

/-- **The anchoring theorem**: the line matches its element alone.

    At the top, the segment is compared with those of all attached elements, since none of them has
    a parent element that would tell it apart.  Below a parent `p`, a match of the line at `i` puts
    a match of the parent's line at the parent of `i`; by induction this parent is `p`, so `i` is a
    child of `p`, and among those the last segment decides. -/
theorem matchesAt_line_iff (ht : d.tree.Reachable) (hroot : ¬ d.tree.Above Tree.root Tree.root)
    (hseg : ∀ a ∈ d.elements, d.SinglesOut a (seg a)) (he : e ∈ d.elements) (hi : i ∈ d.elements) :
    (d.line seg e).parts.matchesAt d.tree i = true ↔ i = e := by
  have hwe := ht.wayUpEnds hroot he
  -- on the depth: the line of `e` is that of its parent and one more segment
  induction hd : d.tree.elementDepth e using Nat.strongRecOn generalizing e i with
  | _ n ih =>
    subst hd
    -- the compound that the last segment reads as, and what it singles out
    obtain ⟨k, hparse, hk⟩ := hseg e he
    have hwi := ht.wayUpEnds hroot hi
    cases hp : d.tree.parentElement? e with
    | none =>
      -- nothing stands before the one part, so the compound alone decides
      have hnil : [(⟨none, k⟩ : Part)] = [] ++ [⟨none, k⟩] := rfl
      rw [parts_line_of_parentElement?_none hp, Segment.reading_eq hparse, hnil,
        Complex.matchesAt_concat ht hwi]
      have hk := hk i hi fun p hp' => by rw [hp] at hp'; cases hp'
      rw [← hk]
      simp
    | some p =>
      have habove : d.tree.ElementAbove p e := .parent hp
      have hpel : p ∈ d.elements := ht.mem_descendants_of_elementAbove hroot he habove
      -- the parent is one step nearer to the top
      have hline : ∀ a ∈ d.elements, (d.line seg p).parts.matchesAt d.tree a = true ↔ a = p :=
        fun a ha => ih _ (ht.elementDepth_lt hwe habove) hpel ha (hwe.of_elementAbove habove) rfl
      rw [parts_line_of_parentElement? ht hwe hp, Segment.reading_eq hparse, Complex.relink,
        Complex.matchesAt_concat ht hwi]
      constructor
      · rintro ⟨hm, hnil | ⟨a, ha, hma⟩⟩
        · have hself := (hline p hpel).2 rfl
          rw [hnil] at hself
          cases hself
        · -- the parent of `i` matches the line above, so it is the parent of `e`
          have ha : d.tree.parentElement? i = some a := ha
          have hael := ht.mem_descendants_of_elementAbove hroot hi (.parent ha)
          obtain rfl : a = p := (hline a hael).1 hma
          exact (hk i hi fun p' hp' => by rw [hp] at hp'; cases hp'; exact ha).1 hm
      · rintro rfl
        refine ⟨(hk i hi fun p' hp' => hp').2 rfl, Or.inr ⟨p, hp, (hline p hpel).2 rfl⟩⟩

/-- A filter that one item of a list passes leaves this item, if the list has it once. -/
theorem filter_eq_singleton {l : List NodeId} (hnd : l.Nodup) (he : e ∈ l) {f : NodeId → Bool}
    (hf : ∀ i ∈ l, f i = true ↔ i = e) : l.filter f = [e] := by
  have hperm : (l.filter f).Perm [e] := by
    rw [List.perm_ext_iff_of_nodup (hnd.filter f) (List.nodup_singleton e)]
    intro i
    rw [List.mem_filter, List.mem_singleton]
    constructor
    · rintro ⟨hi, hfi⟩
      exact (hf i hi).1 hfi
    · rintro rfl
      exact ⟨he, (hf i he).2 rfl⟩
  exact List.perm_singleton.1 hperm

/-- What is on the way up from an attached element is attached. -/
theorem mem_elements_of_mem_lineage (ht : d.tree.Reachable)
    (hroot : ¬ d.tree.Above Tree.root Tree.root) (he : e ∈ d.elements) (hi : i ∈ d.host.lineage e) :
    i ∈ d.elements := by
  rw [Tree.lineage_eq, List.mem_cons, ht.mem_ancestors_iff (ht.wayUpEnds hroot he)] at hi
  rcases hi with rfl | hi
  · exact he
  · exact ht.mem_descendants_of_elementAbove hroot he hi

/-- **The line finds its element alone.**  A chain of compounds is read back as its parts, and asks
    the document for the attached elements at which they match. -/
theorem isUnique_line (ht : d.tree.Reachable) (hroot : ¬ d.tree.Above Tree.root Tree.root)
    (hseg : ∀ a ∈ d.elements, d.SinglesOut a (seg a)) (he : e ∈ d.elements) :
    d.host.isUnique e (d.line seg e).render = true := by
  have hcompounds : (d.line seg e).OfCompounds := by
    intro j s hs
    have hmem := Chain.exists_get?_iff.1 ⟨j, hs⟩
    rw [line, Chain.ofSegments] at hmem
    obtain ⟨s', hs', heq⟩ := List.mem_map.1 hmem
    obtain ⟨a, ha, rfl⟩ := List.mem_map.1 hs'
    cases heq
    -- what stands above an attached element is attached, so its segment singles it out
    have hel := mem_elements_of_mem_lineage ht hroot he (List.mem_reverse.1 ha)
    obtain ⟨k, hk, -⟩ := hseg a hel
    exact ⟨_, hk⟩
  have hne : ∃ j s, (d.line seg e).get? j = some s := by
    obtain ⟨j, hj⟩ := Chain.exists_get?_iff.2
      (show some (seg e) ∈ (d.line seg e).slots by rw [line_slots]; simp)
    exact ⟨j, _, hj⟩
  rw [Host.isUnique_iff, query_render hcompounds hne]
  have hnd : d.elements.Nodup := ht.nodup_descendants hroot
  refine ⟨hcompounds.render_ne_empty hne, ?_⟩
  rw [filter_eq_singleton hnd he fun i hi => matchesAt_line_iff ht hroot hseg he hi]

end Pinpoint.Document
