/-
  What a match of an alternative asks for, from the right end on.

  1. **The last compound** holds at the node, and what is left of it matches a node that stands
     above as the link says (`matchesAt_concat`).  The walk up has to end for this.
  2. Taking out a compound that is not the last one, and linking its right neighbour as a
     descendant to what is left, keeps every match (`matchesAt_of_skip`).
  3. Taking out the last one moves every match to an element above (`matchesAt_of_concat`).
-/
import Pinpoint.Proofs.Document.Ancestors
import Pinpoint.Selector.Path

namespace Pinpoint.Complex

variable {t : Tree} {i : NodeId} {x y y' : Complex} {p q : Part}

/-! ## The last compound

  A match begins at the right end.  Written out from the left, an alternative is its last compound
  and what stands before that, and `matchesAt_concat` turns one into the other; all further facts go
  by induction on the alternative from its right end. -/

/-- **The last compound holds at the node, the rest at a node to its left.** -/
theorem matchesAt_concat (ht : t.Reachable) (hi : t.WayUpEnds i) :
    Complex.matchesAt t i (x ++ [p]) = true ↔
      Compound.matchesAt t i p.compound = true ∧
      (x = [] ∨ ∃ a, (p.combinator.getD .descendant).Links t a i ∧ x.matchesAt t a = true) := by
  unfold Complex.matchesAt
  rw [List.reverse_append, List.reverse_singleton, List.singleton_append]
  cases hx : x.reverse with
  | nil =>
    rw [List.reverse_eq_nil_iff] at hx
    simp [matchesLeftward, hx]
  | cons q left =>
    have hne : x ≠ [] := by
      rintro rfl
      cases hx
    rw [matchesLeftward, Bool.and_eq_true]
    refine and_congr_right fun _ => ?_
    simp only [hne, false_or]
    cases p.combinator.getD .descendant with
    | child => simp [Combinator.Links, Option.any_eq_true]
    | descendant => simp [Combinator.Links, List.any_eq_true, ht.mem_ancestors_iff hi]

/-- Whatever the link is, what it leads to is an element that stands above. -/
theorem elementAbove_of_links {op : Combinator} {a : NodeId} (h : op.Links t a i) :
    t.ElementAbove a i := by
  cases op with
  | child => exact .parent h
  | descendant => exact h

/-! ## Taking out a compound

  This is what pruning does to a chain. -/

/-- Taking out the last compound moves a match to an element above: to the one that the rest of the
    alternative was matched at. -/
theorem matchesAt_of_concat (ht : t.Reachable) (hi : t.WayUpEnds i) (hx : x ≠ [])
    (h : Complex.matchesAt t i (x ++ [p]) = true) :
    ∃ a, t.ElementAbove a i ∧ x.matchesAt t a = true := by
  rw [matchesAt_concat ht hi] at h
  obtain ⟨-, hnil | ⟨a, ha, hm⟩⟩ := h
  · exact absurd hnil hx
  · exact ⟨a, elementAbove_of_links ha, hm⟩

/-- More matches on the left make more matches.  What stands on the right is matched from the right
    end on, and asks of the left part only that it match somewhere. -/
theorem matchesAt_append_mono (ht : t.Reachable) (ha : t.Acyclic) (hy : y ≠ [])
    (hsub : ∀ a, y.matchesAt t a = true → y'.matchesAt t a = true)
    (h : Complex.matchesAt t i (y ++ x) = true) : Complex.matchesAt t i (y' ++ x) = true := by
  induction x using List.reverseRecOn generalizing i with
  | nil =>
    rw [List.append_nil] at h ⊢
    exact hsub i h
  -- the last compound asks the same of the node; the rest was matched above, where the induction
  -- applies
  | append_singleton x p ih =>
    rw [← List.append_assoc, matchesAt_concat ht (ha.wayUpEnds i)] at h ⊢
    obtain ⟨hp, hnil | ⟨a, hlink, hm⟩⟩ := h
    · exact absurd (List.append_eq_nil_iff.1 hnil).1 hy
    · exact ⟨hp, Or.inr ⟨a, hlink, ih hm⟩⟩

/-- **Taking out a compound that has another one on its right keeps every match**, when that one
    may stand anywhere below what is left of it. -/
theorem matchesAt_of_skip (ht : t.Reachable) (ha : t.Acyclic) {p' : Part}
    (hc : p'.compound = p.compound) (hlink : x = [] ∨ p'.combinator = some .descendant)
    (h : Complex.matchesAt t i (x ++ q :: p :: y) = true) :
    Complex.matchesAt t i (x ++ p' :: y) = true := by
  have hsub : ∀ a, Complex.matchesAt t a (x ++ [q] ++ [p]) = true →
      Complex.matchesAt t a (x ++ [p']) = true := by
    intro a hm
    rw [matchesAt_concat ht (ha.wayUpEnds a)] at hm ⊢
    obtain ⟨hp, hnil | ⟨b, hb, hq⟩⟩ := hm
    · simp at hnil
    · rw [matchesAt_concat ht (ha.wayUpEnds b)] at hq
      refine ⟨hc ▸ hp, ?_⟩
      -- above `b`, and so above `a`, stands the node that what is left of `q` matches
      rcases hq.2 with hnil | ⟨b', hb', hx⟩
      · exact Or.inl hnil
      · rcases hlink with hnil | hop
        · exact Or.inl hnil
        · rw [hop]
          exact Or.inr ⟨b', (elementAbove_of_links hb').trans (elementAbove_of_links hb), hx⟩
  have hsplit : x ++ q :: p :: y = (x ++ [q] ++ [p]) ++ y := by simp
  have hsplit' : x ++ p' :: y = (x ++ [p']) ++ y := by simp
  rw [hsplit] at h
  rw [hsplit']
  exact matchesAt_append_mono ht ha (by simp) hsub h

end Pinpoint.Complex
