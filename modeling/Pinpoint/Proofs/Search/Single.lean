/-
  The search for one element, level by level.

  1. **A level.**  Where the chain of a level finds the element and nothing else, pruning it cannot
     fail: the pruned chain still finds the element, so some segment is left and the text is not
     empty.
  2. **The levels.**  So the first level with such a chain is the first level with an answer, and
     the search is the first such chain, pruned (`shortestSelector?_eq_map`).
  3. The answer finds the element alone.

  The lineage of an element may be any list here, so nothing is asked of parent links.
-/
import Pinpoint.Proofs.Search.Pruning
import Pinpoint.Search.Single

namespace Pinpoint

/-- The first answer of two steps, when the second step answers wherever the first one does.
    Without this condition a later item could answer where an earlier one fails at its second
    step. -/
theorem findSome?_bind {α β γ : Type} {f : α → Option β} {g : β → Option γ}
    (hg : ∀ a b, f a = some b → (g b).isSome) (l : List α) :
    (l.findSome? fun a => (f a).bind g) = (l.findSome? f).bind g := by
  induction l with
  | nil => rfl
  | cons a l ih =>
    rw [List.findSome?_cons, List.findSome?_cons]
    cases hf : f a with
    | none => exact ih
    | some b =>
      obtain ⟨c, hc⟩ := Option.isSome_iff_exists.1 (hg a b hf)
      simp only [Option.bind_some, hc]

namespace Host

variable {E ε : Type} [DecidableEq E] {h : Host E ε} {o : Options} {e : E}

/-! ## A level

  On each level a chain is built, tested, and pruned. -/

/-- A level gives the chain of its segments when the element at the top gets one. -/
theorem chainAt?_eq_ite (h : Host E ε) (o : Options) (lineage : List (E × Tokens))
    (kinds : List Kind) :
    h.chainAt? o lineage kinds =
      if (lineage.map fun p => h.segment? o kinds p.1 p.2).head? = some none then none
      else some ⟨lineage.map fun p => h.segment? o kinds p.1 p.2⟩ := rfl

/-- A chain that resolves on a level finds the element alone. -/
theorem isUnique_of_resolvingChain? {lineage : List (E × Tokens)} {kinds : List Kind} {c : Chain}
    (hc : h.resolvingChain? o e lineage kinds = some c) : h.isUnique e c.render = true :=
  (Option.filter_eq_some_iff.1 hc).2

/-- **Pruning the chain of a level that resolves always answers.** -/
theorem prunedSelector?_of_isUnique {c : Chain} (hc : h.isUnique e c.render = true) :
    h.prunedSelector? [e] c = some (h.prune [e] c).render := by
  have hr : h.resolvesTo [e] c.render = true := hc
  have hp : h.resolvesTo [e] (h.prune [e] c).render = true := resolvesTo_prune hr
  have hne : (h.prune [e] c).render ≠ "" := ne_empty_of_resolvesTo hp
  rw [prunedSelector?, minimize_of_resolvesTo (by simp) hr, Option.map_some]
  simp [Option.filter, hne]

/-! ## The levels

  The levels are tried in order until one answers. -/

/-- So does the first chain that resolves. -/
theorem isUnique_of_uniqueChain? {c : Chain} (hc : h.uniqueChain? o e = some c) :
    h.isUnique e c.render = true := by
  obtain ⟨kinds, -, hk⟩ := List.exists_of_findSome?_eq_some hc
  exact isUnique_of_resolvingChain? hk

/-- **The search is the first chain that resolves, pruned.**  The program prunes on each level and
    goes on where that fails; it never does, so the level of the chain is the level of the
    answer. -/
theorem shortestSelector?_eq_map (h : Host E ε) (o : Options) (e : E) :
    h.shortestSelector? o e = (h.uniqueChain? o e).map fun c => (h.prune [e] c).render := by
  have hlevels : h.shortestSelector? o e = (h.uniqueChain? o e).bind (h.prunedSelector? [e]) := by
    refine findSome?_bind (fun kinds c hc => ?_) o.levels
    rw [prunedSelector?_of_isUnique (isUnique_of_resolvingChain? hc)]
    rfl
  rw [hlevels]
  cases hc : h.uniqueChain? o e with
  | none => rfl
  | some c => exact prunedSelector?_of_isUnique (isUnique_of_uniqueChain? hc)

/-! ## The answer

  What is returned has been tested twice, before pruning and at each step of it. -/

/-- The answer is a text, and the whole document has the element for it and nothing else. -/
theorem query_of_shortestSelector? {s : String} (hs : h.shortestSelector? o e = some s) :
    s ≠ "" ∧ h.query s .document = .ok [e] := by
  rw [shortestSelector?_eq_map] at hs
  obtain ⟨c, hc, rfl⟩ := Option.map_eq_some_iff.1 hs
  have hr : h.resolvesTo [e] c.render = true := isUnique_of_uniqueChain? hc
  exact isUnique_iff.1 (resolvesTo_prune hr)

/-- **The search answers exactly where a chain resolves, with that chain pruned, and the answer
    finds its element alone.**  So two elements never share an answer. -/
theorem shortestSelector?_finds_alone (h : Host E ε) (o : Options) (e : E) :
    ((h.shortestSelector? o e).isSome ↔ (h.uniqueChain? o e).isSome) ∧
    (∀ c, h.uniqueChain? o e = some c → ∃ m, h.minimize [e] c = some m ∧
      h.shortestSelector? o e = some m.render ∧ m.render ≠ "" ∧
      h.query m.render .document = .ok [e]) ∧
    ∀ e' s, h.shortestSelector? o e = some s → h.shortestSelector? o e' = some s → e = e' := by
  refine ⟨?_, fun c hc => ?_, fun e' s hs hs' => ?_⟩
  · rw [shortestSelector?_eq_map, Option.isSome_map]
  · have hs : h.shortestSelector? o e = some (h.prune [e] c).render := by
      rw [shortestSelector?_eq_map, hc, Option.map_some]
    have hr : h.resolvesTo [e] c.render = true := isUnique_of_uniqueChain? hc
    exact ⟨_, minimize_of_resolvesTo (by simp) hr, hs, query_of_shortestSelector? hs⟩
  · have hq := (query_of_shortestSelector? hs).2
    rw [(query_of_shortestSelector? hs').2] at hq
    injection hq with hq
    exact (List.head_eq_of_cons_eq hq).symm

/-- The middle item is found by its class; the chain from the list down is what gets pruned. -/
theorem shortestSelector?_finds_marked_item :
    markedList.host.uniqueChain? .standard 3 = some ⟨[some "ul", some ".on"]⟩ ∧
    ∃ m, markedList.host.minimize [3] ⟨[some "ul", some ".on"]⟩ = some m ∧
      markedList.host.shortestSelector? .standard 3 = some m.render ∧ m.render ≠ "" ∧
      markedList.host.query m.render .document = .ok [3] := by
  have hc : markedList.host.uniqueChain? .standard 3 = some ⟨[some "ul", some ".on"]⟩ := by
    decide +kernel
  exact ⟨hc, (shortestSelector?_finds_alone markedList.host .standard 3).2.1 _ hc⟩

end Host

end Pinpoint
