/-
  Pruning a pruned chain.

  1. Where every segment reads as one compound, a pruned chain is pruned for good.  The chain of an
     element in a plain document is of this kind: each of its segments has told an element from its
     siblings, so it was read, and what is written in plain words is read as one compound.
  2. Elsewhere a second pruning may find more to leave out.  A comma in a class makes two
     alternatives of the text around it; while it stands there, a segment before it is needed that
     is not needed once it has gone (`not_forall_minimize_minimize`).
-/
import Pinpoint.Proofs.Search.Grammar
import Pinpoint.Proofs.Search.Minimality

namespace Pinpoint.Document

variable {d : Document} {o : Options} {e : NodeId} {c m : Chain}

/-! ## Chains of compounds -/

/-- **In a plain document the chain of an element is a chain of compounds.** -/
theorem ofCompounds_of_uniqueChain? (ht : d.tree.Reachable) (hd : d.isPlain = true)
    (hc : d.host.uniqueChain? o e = some c) : c.OfCompounds := by
  intro i s hs
  obtain ⟨a, -, hunique, -⟩ := Host.exists_candidate_of_uniqueChain? hc hs
  obtain ⟨-, hq⟩ := Host.isUniqueAmongSiblings_iff.1 hunique
  obtain ⟨y, hy, -⟩ := filterMatching_eq_ok_iff.1 hq
  obtain ⟨k, rfl, -⟩ := (isWorded_of_uniqueChain? ht hd hc hs).parse hy
  exact ⟨⟨none, k⟩, hy⟩

/-! ## Pruning twice -/

/-- **Pruning the chain of an element a second time changes nothing** in a plain document, and
    anywhere else where each segment of the chain is read as one compound. -/
theorem minimize_minimize (ht : d.tree.Reachable) (ha : d.tree.Acyclic)
    (hplain : d.isPlain = true ∨ c.OfCompounds) (hc : d.host.uniqueChain? o e = some c)
    (hm : d.host.minimize [e] c = some m) : d.host.minimize [e] m = some m := by
  have hcompounds : c.OfCompounds := by
    rcases hplain with hd | hcompounds
    · exact ofCompounds_of_uniqueChain? ht hd hc
    · exact hcompounds
  obtain ⟨htargets, hr, rfl⟩ := Host.minimize_eq_some_iff.1 hm
  obtain ⟨l, hl⟩ := Chain.exists_endsAt (Host.exists_get?_of_resolvesTo hr)
  have hneed : ∀ i s, (d.host.prune [e] c).get? i = some s →
      d.host.resolvesTo [e] ((d.host.prune [e] c).without i).render = false :=
    fun i s hs => not_resolvesTo_without ht ha ⟨hcompounds, hl, hr⟩ htargets hs
  rw [Host.minimize_of_resolvesTo htargets (Host.resolvesTo_prune hr), Host.prune_eq_self hneed]

/-- The item with a price: the list is left out, and nothing more. -/
theorem minimize_minimize_shelf :
    shelf.isPlain = true ∧
    shelf.host.uniqueChain? .standard 3 = some ⟨[some "ul", some ".item:nth-child(2)"]⟩ ∧
    shelf.host.minimize [3] ⟨[some "ul", some ".item:nth-child(2)"]⟩ =
      some ⟨[none, some ".item:nth-child(2)"]⟩ ∧
    shelf.host.minimize [3] ⟨[none, some ".item:nth-child(2)"]⟩ =
      some ⟨[none, some ".item:nth-child(2)"]⟩ := by
  have hd : shelf.isPlain = true := by decide +kernel
  have hc : shelf.host.uniqueChain? .standard 3 =
      some ⟨[some "ul", some ".item:nth-child(2)"]⟩ := by decide +kernel
  have hm : shelf.host.minimize [3] ⟨[some "ul", some ".item:nth-child(2)"]⟩ =
      some ⟨[none, some ".item:nth-child(2)"]⟩ := by decide +kernel
  exact ⟨hd, hc, hm, minimize_minimize (Tree.reachable_ofSteps _)
    (Tree.acyclic_of_parent?_lt (by decide +kernel)) (Or.inl hd) hc hm⟩

/-! ## A comma in a class -/

/-- A page whose middle element has a class with a comma in it. -/
def commaPage : Document := Document.ofSteps
  [.edit (.element "main"), .edit (.append 0 1), .edit (.element "b"), .edit (.append 1 2),
   .edit (.element "u"), .edit (.append 2 3), .edit (.element "p"), .edit (.append 1 4),
   .edit (.element "i"), .edit (.append 4 5), .edit (.attribute 2 "class" "x,b"),
   .edit (.attribute 3 "id" "t"), .edit (.attribute 5 "class" "x"), .finalize]

/-- **Outside plain documents pruning twice may leave out more.**  The class is read as two
    alternatives, and the first one, below `main`, would find another element without it; once the
    class has gone, `main` is not needed, but the sweeps are over. -/
theorem not_forall_minimize_minimize :
    ¬ ∀ (d : Document) (o : Options) (e : NodeId) (c once twice : Chain),
      d.tree.Reachable → d.tree.Acyclic → d.host.uniqueChain? o e = some c →
      d.host.minimize [e] c = some once → d.host.minimize [e] once = some twice →
      twice = once := by
  intro h
  have hc : commaPage.host.uniqueChain? .standard 3 =
      some ⟨[some "main", some ".x,b", some "#t"]⟩ := by decide +kernel
  have honce : commaPage.host.minimize [3] ⟨[some "main", some ".x,b", some "#t"]⟩ =
      some ⟨[some "main", none, some "#t"]⟩ := by decide +kernel
  have htwice : commaPage.host.minimize [3] ⟨[some "main", none, some "#t"]⟩ =
      some ⟨[none, none, some "#t"]⟩ := by decide +kernel
  have hsame := h commaPage .standard 3 _ _ _ (Tree.reachable_ofSteps _)
    (Tree.acyclic_of_parent?_lt (by decide +kernel)) hc honce htwice
  cases hsame

end Pinpoint.Document
