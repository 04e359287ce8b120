/-
  What it means that a selector finds its targets.

  1. A text is found with an answer when it is not empty and the host does not refuse it.
  2. One target is asked for by the whole answer, several by number and membership.  Both ways say
     the same, so `resolvesTo` is `isSameSet` for every list of targets.
  3. **Regular hosts**: no answer lists an element twice, and no element stands above itself.
  4. Where a query answers no element twice, counting is enough: the selector finds its targets
     exactly when answer and targets have the same members.
-/
import Mathlib.Data.List.Perm.Subperm
import Mathlib.Logic.Relation
import Pinpoint.Search.Resolution

namespace Pinpoint.Host

variable {E ε : Type}

/-! ## Answers -/

/-- No answer lists an element twice, and parent links run in no circle. -/
structure Regular (h : Host E ε) : Prop where
  nodup_query : ∀ s scope found, h.query s scope = .ok found → found.Nodup
  parents_end : ∀ e, ¬ Relation.TransGen (fun i p => h.parent i = some p) e e

/-- **A text is found with an answer** when it is not empty and the host answers it.  A refusal and
    an empty text both find nothing, and cannot be told apart from here on. -/
theorem found?_eq_some_iff {h : Host E ε} {s : String} {scope : Scope E} {found : List E} :
    h.found? s scope = some found ↔ s ≠ "" ∧ h.query s scope = .ok found := by
  unfold found?
  by_cases hs : s = ""
  · simp [hs]
  · cases hq : h.query s scope <;> simp [hs]

variable [DecidableEq E]

/-- A selector finds an element alone when the host's answer is the list of this element. -/
theorem isUnique_iff {h : Host E ε} {e : E} {s : String} :
    h.isUnique e s = true ↔ s ≠ "" ∧ h.query s .document = .ok [e] := by
  rw [isUnique, beq_iff_eq, found?_eq_some_iff]

/-- The same among the children of the parent, or among the elements at the top. -/
theorem isUniqueAmongSiblings_iff {h : Host E ε} {e : E} {s : String} :
    h.isUniqueAmongSiblings e s = true ↔
      s ≠ "" ∧ h.query s (.childrenOf (h.parent e)) = .ok [e] := by
  rw [isUniqueAmongSiblings, beq_iff_eq, found?_eq_some_iff]

/-! ## Targets

  The search asks for one target by comparing lists, and for several by counting.  After
  `resolvesTo_eq_isSameSet` no proof has to tell the two apart. -/

/-- Several targets are compared by number and membership.  A target that is listed again is not
    counted again, while an element that the answer lists again is. -/
theorem isSameSet_iff {h : Host E ε} {targets : List E} {s : String} :
    h.isSameSet targets s = true ↔ s ≠ "" ∧ ∃ found, h.query s .document = .ok found ∧
      found.length = (distinct targets).length ∧ ∀ e ∈ found, e ∈ targets := by
  unfold isSameSet
  cases hf : h.found? s .document with
  | none =>
    refine ⟨fun h' => absurd h' (by simp), ?_⟩
    rintro ⟨hs, found, hq, -⟩
    rw [found?_eq_some_iff.2 ⟨hs, hq⟩] at hf
    cases hf
  | some found =>
    obtain ⟨hs, hq⟩ := found?_eq_some_iff.1 hf
    simp [hs, hq]

/-- One target listed alone is counted as any other list. -/
theorem isUnique_eq_isSameSet (h : Host E ε) (e : E) (s : String) :
    h.isUnique e s = h.isSameSet [e] s := by
  rw [Bool.eq_iff_iff, isUnique_iff, isSameSet_iff]
  refine and_congr_right fun _ => ⟨fun hq => ⟨[e], hq, rfl, fun _ hx => hx⟩, ?_⟩
  rintro ⟨found, hq, hlen, hmem⟩
  obtain ⟨x, rfl⟩ : ∃ x, found = [x] := List.length_eq_one_iff.1 hlen
  have hx : x = e := by simpa using hmem x
  rw [hq, hx]

/-- **One way of asking.**  Whether one target is listed or several makes no difference to what is
    asked. -/
theorem resolvesTo_eq_isSameSet (h : Host E ε) (targets : List E) (s : String) :
    h.resolvesTo targets s = h.isSameSet targets s := by
  unfold resolvesTo
  split
  · exact isUnique_eq_isSameSet h _ s
  · rfl

/-- Nothing is found by an empty text, even where no target is asked for. -/
theorem ne_empty_of_resolvesTo {h : Host E ε} {targets : List E} {s : String}
    (hr : h.resolvesTo targets s = true) : s ≠ "" := by
  rw [resolvesTo_eq_isSameSet] at hr
  exact (isSameSet_iff.1 hr).1

/-- **Counting is enough.**  Where the answer has no element twice, finding as many elements as
    there are targets, all of them targets, is finding every target. -/
theorem resolvesTo_iff_of_nodup {h : Host E ε} {targets : List E} {s : String}
    (hnd : ∀ found, h.query s .document = .ok found → found.Nodup) :
    h.resolvesTo targets s = true ↔
      s ≠ "" ∧ ∃ found, h.query s .document = .ok found ∧ ∀ e, e ∈ found ↔ e ∈ targets := by
  rw [resolvesTo_eq_isSameSet, isSameSet_iff]
  refine and_congr_right fun _ => exists_congr fun found => and_congr_right fun hq => ?_
  -- the distinct targets are the list that is counted
  have hsub : (∀ e ∈ found, e ∈ targets) ↔ found ⊆ distinct targets := by
    simp only [List.subset_def, mem_distinct]
  constructor
  · rintro ⟨hlen, hmem⟩ e
    -- as many without repetition, and all of them targets: the same items
    have hsubperm := List.subperm_of_subset (hnd found hq) (hsub.1 hmem)
    have hperm : found.Perm (distinct targets) :=
      hsubperm.perm_of_length_le (Nat.le_of_eq hlen.symm)
    rw [hperm.mem_iff, mem_distinct]
  · intro hmem
    have hperm : found.Perm (distinct targets) := by
      rw [List.perm_ext_iff_of_nodup (hnd found hq) (nodup_distinct targets)]
      intro e
      rw [hmem, mem_distinct]
    exact ⟨hperm.length_eq, fun e he => (hmem e).1 he⟩

end Pinpoint.Host
