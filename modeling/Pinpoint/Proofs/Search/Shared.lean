/-
  The search for one selector of several elements.

  1. Whatever the merging of chains and the choice of a last segment come to, the answer has been
     through `minimize` for the distinct elements of the list (`minimize_of_commonSelector?`).
  2. There its matches have been counted and looked up among the targets; on a regular host that
     is as good as comparing sets.
-/
import Pinpoint.Proofs.Search.DocumentHost
import Pinpoint.Proofs.Search.Single
import Pinpoint.Search.Shared

namespace Pinpoint

namespace Host

variable {E ε : Type} [DecidableEq E] {h : Host E ε} {o : Options} {elements : List E} {s : String}

/-! ## The answer -/

/-- The answer is a chain that was pruned for the distinct elements of the list. -/
theorem minimize_of_commonSelector? (hs : h.commonSelector? o elements = some s) :
    ∃ chain m, h.minimize (distinct elements) chain = some m ∧ s = m.render := by
  unfold commonSelector? at hs
  split at hs
  · cases hs
  · rename_i first others heq
    rw [heq]
    dsimp only at hs
    split at hs
    · cases hs
    · cases hs
    · obtain ⟨chain, -, hs⟩ := Option.bind_eq_some_iff.1 hs
      split at hs
      · obtain ⟨m, hm, hs⟩ := Option.map_eq_some_iff.1 hs
        exact ⟨chain, m, hm, hs.symm⟩
      · cases hs

/-- On a host that lists no element twice, the matches of the answer are the listed elements. -/
theorem mem_query_of_commonSelector? (hr : h.Regular) (hs : h.commonSelector? o elements = some s) :
    ∃ found, h.query s .document = .ok found ∧ ∀ e, e ∈ found ↔ e ∈ elements := by
  obtain ⟨chain, m, hm, rfl⟩ := minimize_of_commonSelector? hs
  have hres := resolvesTo_of_minimize hm
  rw [resolvesTo_iff_of_nodup fun found => hr.nodup_query _ _ found] at hres
  obtain ⟨-, found, hq, hmem⟩ := hres
  refine ⟨found, hq, fun e => ?_⟩
  rw [hmem, mem_distinct]

/-- **The selector of a list finds the listed elements, all of them and no other**, on every
    regular host; a document over a tree without circles is such a host. -/
theorem commonSelector?_finds_exactly :
    (∀ (E ε : Type) [DecidableEq E] (h : Host E ε), h.Regular →
      ∀ (o : Options) (elements : List E) (s : String), h.commonSelector? o elements = some s →
        elements ≠ [] ∧
        ∃ found, h.query s .document = .ok found ∧ ∀ e, e ∈ found ↔ e ∈ elements) ∧
    ∀ d : Document, d.tree.Reachable → d.tree.Acyclic → d.host.Regular := by
  refine ⟨fun E ε _ h hr o elements s hs => ⟨?_, mem_query_of_commonSelector? hr hs⟩,
    fun d ht ha => Document.regular_host ht ha⟩
  rintro rfl
  cases hs

/-- The items of the list, in another order and one of them twice, are found by their tag. -/
theorem commonSelector?_finds_items :
    markedList.host.Regular ∧
    markedList.host.commonSelector? .standard [4, 3, 2, 4] = some "li" ∧
    ∃ found, markedList.host.query "li" .document = .ok found ∧
      ∀ e, e ∈ found ↔ e ∈ [4, 3, 2, 4] := by
  have hr : markedList.host.Regular :=
    commonSelector?_finds_exactly.2 markedList (Tree.reachable_ofSteps _)
      (Tree.acyclic_of_parent?_lt (by decide +kernel))
  have hs : markedList.host.commonSelector? .standard [4, 3, 2, 4] = some "li" := by decide +kernel
  exact ⟨hr, hs, (commonSelector?_finds_exactly.1 _ _ _ hr _ _ _ hs).2⟩

end Host

end Pinpoint
