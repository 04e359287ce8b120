/-
  Going up in a tree.

  1. **The nodes above a node form one line**: of two of them, one is above the other.  So who
     stands above a node that stands above itself stands above itself, too.
  2. The number of elements above a node (`elementDepth`) falls with every step up, unless the
     steps run in a circle, and it is at most the number of nodes.
  3. So the walk up, which takes at most as many steps as there are nodes, reaches every element
     above a node whose way up ends (`mem_ancestors_iff`).  The lineage that a search asks for is
     the node and then its ancestors (`lineage_eq`).
  4. The way up ends in a tree without circles, and below a document node that is not hung below
     itself.
-/
import Mathlib.Data.Finset.Card
import Mathlib.Data.Finset.Range
import Pinpoint.Document.Order
import Pinpoint.Proofs.Document.Links
import Pinpoint.Search.DocumentHost

namespace Pinpoint.Tree

variable {t : Tree} {a b c i p : NodeId}

/-! ## One line

  Nothing in this section needs the tree to be made by edits: only that a node has one parent at
  most. -/

/-- Every node above `i` is its parent or above its parent.  A node has one parent at most, so the
    way up has no branches, and this turns into an equivalence. -/
theorem above_iff (hp : t.parent? i = some p) : t.Above a i ↔ a = p ∨ t.Above a p := by
  constructor
  · intro h
    cases h with
    | parent h => exact Or.inl (Option.some.inj (h.symm.trans hp))
    | further h above => exact Or.inr (Option.some.inj (h.symm.trans hp) ▸ above)
  · rintro (rfl | h)
    · exact .parent hp
    · exact .further hp h

/-- **Two nodes above a third are on one line.**  By induction on the way up to one of them; either
    the other is met on it, or it lies further up. -/
theorem above_comparable (ha : t.Above a i) (hb : t.Above b i) :
    a = b ∨ t.Above a b ∨ t.Above b a := by
  induction ha with
  | parent hp =>
    rcases (above_iff hp).1 hb with h | h
    · exact Or.inl h.symm
    · exact Or.inr (Or.inr h)
  | further hp ha ih =>
    rcases (above_iff hp).1 hb with rfl | h
    · exact Or.inr (Or.inl ha)
    · exact ih h

/-- Who stands above a circle stands on it.  The way up from a node on the circle comes back to it,
    so it passes by everything above. -/
theorem above_self_of_above (hloop : t.Above i i) (ha : t.Above a i) : t.Above a a := by
  induction ha with
  | parent hp =>
    rcases (above_iff hp).1 hloop with h | h
    · exact h ▸ hloop
    · exact (Above.parent hp).trans h
  | further hp ha ih =>
    rcases (above_iff hp).1 hloop with h | h
    · exact ih (h ▸ hloop)
    · exact ih ((Above.parent hp).trans h)

/-- Above a node stands a child of each node above that, or it is such a child itself. -/
theorem exists_child_of_above (h : t.Above a i) :
    ∃ k, t.parent? k = some a ∧ (i = k ∨ t.Above k i) := by
  induction h with
  | parent hp => exact ⟨_, hp, Or.inl rfl⟩
  | further hp _ ih =>
    obtain ⟨k, hk, rfl | h⟩ := ih
    · exact ⟨_, hk, Or.inr (.parent hp)⟩
    · exact ⟨k, hk, Or.inr (.further hp h)⟩

/-- Nodes that all hang below earlier ones run in no circle. -/
theorem acyclic_of_parent?_lt (h : ∀ i < t.size, ∀ p ∈ t.parent? i, p < i) : t.Acyclic := by
  have hlt : ∀ i p, t.parent? i = some p → p < i := by
    intro i p hp
    refine h i (lt_size_of_links fun hn => ?_) p hp
    rw [parent?_eq_links, hn] at hp
    cases hp
  have habove : ∀ a i, t.Above a i → a < i := by
    intro a i ha
    induction ha with
    | parent hp => exact hlt _ _ hp
    | further hp _ ih => exact Nat.lt_trans ih (hlt _ _ hp)
  exact fun i hi => Nat.lt_irrefl i (habove i i hi)

/-- Both are nodes of the tree. -/
theorem Reachable.lt_size_of_above (ht : t.Reachable) (h : t.Above a i) :
    a < t.size ∧ i < t.size := by
  induction h with
  | parent hp => exact ht.lt_size_of_parent? hp
  | further hp _ ih => exact ⟨ih.1, (ht.lt_size_of_parent? hp).2⟩

/-- Above what is above is above. -/
theorem ElementAbove.trans (ha : t.ElementAbove a b) (hb : t.ElementAbove b i) :
    t.ElementAbove a i := by
  induction hb with
  | parent hp => exact .further hp ha
  | further hp _ ih => exact .further hp ih

/-! ## Depth

  The walk up carries a bound on its steps.  To see that the bound is never met, the steps are
  measured by the number of elements that are left above. -/

/-- The set of those that stand in a transitive relation to `p` grows along it, as long as `p`
    does not stand in it to itself. -/
theorem card_filter_lt {r : NodeId → NodeId → Prop} [∀ x, DecidablePred (r · x)]
    (htrans : ∀ {x y z}, r x y → r y z → r x z) {n : Nat} (hpi : r p i) (hpp : ¬ r p p)
    (hp : p < n) :
    ((Finset.range n).filter (r · p)).card < ((Finset.range n).filter (r · i)).card := by
  apply Finset.card_lt_card
  refine ⟨fun x hx => ?_, fun hsub => ?_⟩
  · rw [Finset.mem_filter] at hx ⊢
    exact ⟨hx.1, htrans hx.2 hpi⟩
  · have hmem := hsub (Finset.mem_filter.2 ⟨Finset.mem_range.2 hp, hpi⟩)
    exact hpp (Finset.mem_filter.1 hmem).2

open Classical in
/-- The number of elements above a node. -/
noncomputable def elementDepth (t : Tree) (i : NodeId) : Nat :=
  ((Finset.range t.size).filter (t.ElementAbove · i)).card

/-- No more elements are above a node than there are nodes. -/
theorem elementDepth_le (t : Tree) (i : NodeId) : t.elementDepth i ≤ t.size := by
  classical
  exact (Finset.card_filter_le _ _).trans (Nat.le_of_eq (Finset.card_range _))

/-- No element above `i` stands above itself: going up from `i` ends.  A circle is only met if it is
    above the node, so trees with circles elsewhere are no hindrance. -/
def WayUpEnds (t : Tree) (i : NodeId) : Prop := ∀ a, t.ElementAbove a i → ¬ t.ElementAbove a a

/-- From an element further up the way ends, too. -/
theorem WayUpEnds.of_elementAbove (h : t.WayUpEnds i) (ha : t.ElementAbove a i) :
    t.WayUpEnds a := fun b hb => h b (hb.trans ha)

/-- An element above has fewer elements above it: all of them are above the node as well, and the
    element itself is one more. -/
theorem Reachable.elementDepth_lt (ht : t.Reachable) (h : t.WayUpEnds i)
    (ha : t.ElementAbove a i) : t.elementDepth a < t.elementDepth i := by
  classical
  exact card_filter_lt (fun h₁ h₂ => h₁.trans h₂) ha (h a ha) (ht.lt_size_of_above ha.above).1

/-! ## Ancestors

  Where the measure falls with every step, the bounded walk is a recursion on it. -/

/-- More steps than elements above change nothing.  The walk is given as many steps as there are
    nodes, which the depth does not exceed, and so every longer bound would have done as well. -/
theorem Reachable.ancestorsWithin_eq (ht : t.Reachable) {n m : Nat} (h : t.WayUpEnds i)
    (hn : t.elementDepth i ≤ n) (hm : t.elementDepth i ≤ m) :
    t.ancestorsWithin n i = t.ancestorsWithin m i := by
  -- with no step left nothing stands above, since each element above needs one of its own
  induction n generalizing m i with
  | zero =>
    cases hp : t.parentElement? i with
    | none => cases m <;> simp [ancestorsWithin, hp]
    | some p =>
      have := ht.elementDepth_lt h (.parent hp)
      omega
  | succ n ih =>
    cases hp : t.parentElement? i with
    | none => cases m <;> simp [ancestorsWithin, hp]
    | some p =>
      have hlt := ht.elementDepth_lt h (.parent hp)
      obtain ⟨m, rfl⟩ : ∃ k, m = k + 1 := ⟨m - 1, by omega⟩
      simp only [ancestorsWithin, hp]
      rw [ih (m := m) (h.of_elementAbove (.parent hp)) (by omega) (by omega)]

/-- Without a parent that is an element there is nothing to walk to. -/
theorem ancestors_of_parentElement?_none (hp : t.parentElement? i = none) :
    t.ancestors i = [] := by
  rw [ancestors]
  cases t.size <;> simp [ancestorsWithin, hp]

/-- The ancestors are the parent and its ancestors.  The walk from the parent may take one step
    less; it does not need it. -/
theorem Reachable.ancestors_of_parentElement? (ht : t.Reachable) (h : t.WayUpEnds i)
    (hp : t.parentElement? i = some p) : t.ancestors i = p :: t.ancestors p := by
  have hlt := ht.elementDepth_lt h (.parent hp)
  have hle := t.elementDepth_le i
  obtain ⟨n, hn⟩ : ∃ k, t.size = k + 1 := ⟨t.size - 1, by omega⟩
  have hstep : t.ancestorsWithin (n + 1) i = p :: t.ancestorsWithin n p := by
    simp only [ancestorsWithin, hp]
  rw [ancestors, ancestors, hn, hstep]
  congr 1
  exact ht.ancestorsWithin_eq (h.of_elementAbove (.parent hp)) (by omega) (by omega)

/-- **The walk up finds every element above, and no other node.**  By induction on the depth, which
    falls with the step to the parent. -/
theorem Reachable.mem_ancestors_iff (ht : t.Reachable) (h : t.WayUpEnds i) :
    a ∈ t.ancestors i ↔ t.ElementAbove a i := by
  induction hd : t.elementDepth i using Nat.strongRecOn generalizing i with
  | _ d ih =>
    subst hd
    cases hp : t.parentElement? i with
    | none =>
      rw [ancestors_of_parentElement?_none hp]
      refine ⟨fun ha => absurd ha List.not_mem_nil, fun ha => ?_⟩
      cases ha with
      | parent h' => rw [hp] at h'; cases h'
      | further h' _ => rw [hp] at h'; cases h'
    | some p =>
      rw [ht.ancestors_of_parentElement? h hp, List.mem_cons,
        ih _ (ht.elementDepth_lt h (.parent hp)) (h.of_elementAbove (.parent hp)) rfl]
      constructor
      · rintro (rfl | ha)
        · exact .parent hp
        · exact .further hp ha
      · intro ha
        cases ha with
        | parent h' => exact Or.inl (Option.some.inj (h'.symm.trans hp))
        | further h' ha => exact Or.inr (Option.some.inj (h'.symm.trans hp) ▸ ha)

/-! ## Lineages

  A search climbs through the parents of an element, and its host says what the parents are. -/

/-- What climbs through parents lists the node and then those above it. -/
theorem climb_eq (t : Tree) (n : Nat) (i : NodeId) :
    climb t.parentElement? n i = i :: t.ancestorsWithin n i := by
  induction n generalizing i with
  | zero => rfl
  | succ n ih =>
    cases hp : t.parentElement? i with
    | none => simp [climb, ancestorsWithin, hp]
    | some p => simp [climb, ancestorsWithin, hp, ih]

/-- **The lineage is the node and then its ancestors.** -/
theorem lineage_eq (d : Document) (i : NodeId) :
    d.host.lineage i = i :: d.tree.ancestors i :=
  climb_eq d.tree d.tree.size i

/-! ## Where the way up ends

  Two conditions that the theorems about searches ask for. -/

/-- In a tree without circles every way up ends. -/
theorem Acyclic.wayUpEnds (ha : t.Acyclic) (i : NodeId) : t.WayUpEnds i :=
  fun a _ hloop => ha a hloop.above

/-- Elements all the way up to `a` leave no room for a node that is no element. -/
theorem eq_or_above_of_elementAbove (hb : t.isElement b = false) (ha : t.ElementAbove a i)
    (hbi : t.Above b i) : b = a ∨ t.Above b a := by
  induction ha with
  | parent hp => exact (above_iff (parent?_of_parentElement? hp).1).1 hbi
  | further hp _ ih =>
    obtain ⟨hp, hel⟩ := parent?_of_parentElement? hp
    rcases (above_iff hp).1 hbi with rfl | h
    · rw [hb] at hel; cases hel
    · exact ih h

/-- A node that is no element and does not stand above itself ends the way up of what is below it.
    The document node is such a node, if it has not been hung below itself. -/
theorem wayUpEnds_of_above (hb : t.isElement b = false) (hbb : ¬ t.Above b b)
    (hbi : t.Above b i) : t.WayUpEnds i := by
  intro a ha hloop
  -- on a circle of elements, `b` would stand above the circle, and so on it
  rcases eq_or_above_of_elementAbove hb ha hbi with rfl | h
  · exact hbb hloop.above
  · exact hbb (above_self_of_above hloop.above h)

end Pinpoint.Tree
