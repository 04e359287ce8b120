/-
  What several elements have to agree on for a search to answer.

  1. Targets are a set: neither their order nor a target listed twice changes what is found.
  2. **Order.**  The first element gives the meet its length and the shared candidates their order,
     and nothing else depends on it; so lists of the same elements whose first ones are equally
     deep are answered alike.  At different depths they may not be: the meet is then cut off, or
     lengthened by empty places, at the wrong end (`not_forall_commonSelector?_perm`).
  3. **Leaves.**  A shared candidate is tried only where the chains agree on no leaf.  So where a
     shared candidate finds the elements, the search answers unless the chains agree on a leaf that
     does not, as two items may that have a class in common with a third one.
-/
import Pinpoint.Proofs.Search.Grammar

namespace Pinpoint

/-! ## Targets as a set

  A target listed twice is dropped before the search begins, so two lists come to the same if their
  distinct items are the same in some order. -/

/-- Lists of the same items, however often each is listed, have the same distinct ones in some
    order. -/
theorem perm_distinct {α : Type} [DecidableEq α] {l l' : List α} (h : l.Perm l') :
    (distinct l).Perm (distinct l') := by
  rw [List.perm_ext_iff_of_nodup (nodup_distinct l) (nodup_distinct l')]
  intro x
  rw [mem_distinct, mem_distinct, h.mem_iff]

/-- A list in which nothing is listed twice keeps all of its items, in their order. -/
theorem distinct_of_nodup {α : Type} [DecidableEq α] {l : List α} (h : l.Nodup) :
    distinct l = l := by
  induction l with
  | nil => rfl
  | cons x l ih =>
    obtain ⟨hx, hl⟩ := List.nodup_cons.1 h
    rw [distinct, ih hl, List.filter_eq_self.2]
    intro y hy
    exact decide_eq_true fun heq => hx (heq ▸ hy)

namespace Host

variable {E ε : Type} [DecidableEq E] {h : Host E ε} {o : Options}

/-- The test for several targets counts them and looks each of them up, and neither minds the
    order. -/
theorem isSameSet_perm {targets targets' : List E} (hperm : targets.Perm targets') (s : String) :
    h.isSameSet targets s = h.isSameSet targets' s := by
  rw [Bool.eq_iff_iff, isSameSet_iff, isSameSet_iff, (perm_distinct hperm).length_eq]
  simp only [hperm.mem_iff]

/-! ## Order

  Here nothing is known of the host but its data: neither that it is a document nor that its
  selectors find anything. -/

/-- A chain has a place for every element of the lineage. -/
theorem length_uniqueChain? {e : E} {c : Chain} (hc : h.uniqueChain? o e = some c) :
    c.length = (h.lineage e).length := by
  obtain ⟨kinds, -, rfl⟩ := exists_level_of_uniqueChain? hc
  rw [Chain.length, List.length_map, tokenLineage, List.length_map, List.length_reverse]

variable {first first' : E} {others others' : List E}

/-- The step from one order to another.  Both searches have the same chains, in different orders.
    With first chains of one length they meet in the same chain, and a candidate is shared by all
    targets or by none of them, so whatever the first search finds is tried by the second one,
    too. -/
theorem isSome_of_perm (hperm : (first :: others).Perm (first' :: others'))
    (hdepth : (h.lineage first).length = (h.lineage first').length)
    (hsome : (h.commonSelector? o (first :: others)).isSome = true) :
    (h.commonSelector? o (first' :: others')).isSome = true := by
  obtain ⟨s, hs⟩ := Option.isSome_iff_exists.1 hsome
  obtain ⟨a, as, c, cs, hd, hm⟩ := exists_chains_of_commonSelector? hs
  obtain ⟨rfl, has⟩ := List.cons.inj hd
  have hd' : distinct (first' :: others') =
      first' :: (distinct others').filter (· ≠ first') := rfl
  generalize (distinct others').filter (· ≠ first') = as' at hd'
  have htargets : (first :: as).Perm (first' :: as') := by
    rw [← hd, ← hd']
    exact perm_distinct hperm
  -- every element of the second list has a chain, and these are the same chains
  obtain ⟨hall, hchains⟩ := mapM_eq_some_iff.1 hm
  have hall' : ∀ e ∈ first' :: as', (h.uniqueChain? o e).isSome = true :=
    fun e he => hall e (htargets.mem_iff.2 he)
  obtain ⟨c', hc'⟩ := Option.isSome_iff_exists.1 (hall' first' List.mem_cons_self)
  have hm' : (first' :: as').mapM (h.uniqueChain? o) =
      some (c' :: as'.filterMap (h.uniqueChain? o)) :=
    mapM_eq_some_iff.2 ⟨hall', by rw [List.filterMap_cons_some hc']⟩
  have hperm' : (c :: cs).Perm (c' :: as'.filterMap (h.uniqueChain? o)) := by
    rw [hchains, ← List.filterMap_cons_some hc']
    exact htargets.filterMap _
  -- the depth of the first element is the length of the first chain, which the meet takes over
  have hlen : c.length = c'.length := by
    rw [length_uniqueChain? (eq_some_of_mapM_cons hm), length_uniqueChain? hc', hdepth]
  rw [commonSelector?_isSome_iff hd hm] at hsome
  rw [commonSelector?_isSome_iff hd' hm', ← Chain.meet_eq_of_perm hperm' hlen]
  obtain ⟨chain, ⟨hne, leaf, hleaf, heq⟩, hr⟩ := hsome
  rw [isSameSet_perm htargets] at hr
  refine ⟨chain, ⟨hne, leaf, hleaf.imp_right fun ⟨hnone, hshared⟩ => ⟨hnone, ?_⟩, heq⟩, hr⟩
  rw [mem_sharedCandidates_iff] at hshared ⊢
  exact fun e he => hshared e (htargets.mem_iff.2 he)

/-- **Lists of the same elements are answered alike when their first elements are equally deep**,
    whatever the host.  The elements may be listed any number of times.  It is only said that both
    searches answer or both do not: where no leaf is agreed on, the first element decides which of
    the shared candidates is tried first, so the answers need not be the same text. -/
theorem isSome_commonSelector?_perm (h : Host E ε) (o : Options)
    (hperm : (first :: others).Perm (first' :: others'))
    (hdepth : (h.lineage first).length = (h.lineage first').length) :
    (h.commonSelector? o (first :: others)).isSome =
      (h.commonSelector? o (first' :: others')).isSome := by
  rw [Bool.eq_iff_iff]
  exact ⟨isSome_of_perm hperm hdepth, isSome_of_perm hperm.symm hdepth.symm⟩

end Host

namespace Document

variable {d : Document} {o : Options} {targets : List NodeId} {s : String}

/-- The two items on sale, one of them named twice. -/
theorem isSome_commonSelector?_shelf :
    ([4, 2, 4] : List NodeId).Perm [2, 4, 4] ∧
    (shelf.host.lineage 4).length = (shelf.host.lineage 2).length ∧
    (shelf.host.commonSelector? shelfOptions [4, 2, 4]).isSome =
      (shelf.host.commonSelector? shelfOptions [2, 4, 4]).isSome := by
  have hperm : ([4, 2, 4] : List NodeId).Perm [2, 4, 4] := by decide
  have hdepth : (shelf.host.lineage 4).length = (shelf.host.lineage 2).length := by
    decide +kernel
  exact ⟨hperm, hdepth, Host.isSome_commonSelector?_perm shelf.host shelfOptions hperm hdepth⟩

/-- A paragraph, and another one in a list beside it, with one class. -/
def twoDepths : Document := Document.ofSteps
  [.edit (.element "div"), .edit (.append 0 1), .edit (.element "p"), .edit (.append 1 2),
   .edit (.element "ul"), .edit (.append 1 3), .edit (.element "p"), .edit (.append 3 4),
   .edit (.attribute 2 "class" "on"), .edit (.attribute 4 "class" "on"), .finalize]

/-- **At different depths the order counts.**  With the higher paragraph first, the meet ends one
    place too early: its leaf is directly below the top, where only one of the two is. -/
theorem not_forall_commonSelector?_perm :
    ¬ ∀ (d : Document) (o : Options) (elements elements' : List NodeId),
      d.tree.Reachable → d.tree.Acyclic → elements.Perm elements' →
      ((d.host.commonSelector? o elements).isSome = true ↔
        (d.host.commonSelector? o elements').isSome = true) := by
  intro h
  have hone : (twoDepths.host.commonSelector? .standard [4, 2]).isSome = true := by
    decide +kernel
  have hother : (twoDepths.host.commonSelector? .standard [2, 4]).isSome = false := by
    decide +kernel
  have hsame := h twoDepths .standard [4, 2] [2, 4] (Tree.reachable_ofSteps _)
    (Tree.acyclic_of_parent?_lt (by decide +kernel)) (by decide)
  rw [hsame.1 hone] at hother
  cases hother

/-! ## Leaves

  In a document the test of the search is an equality of sets.  This settles what the shared
  candidates are worth: a leaf that all chains agree on is kept, whether it finds the targets or
  not. -/

/-- The selector is answered, with the targets and nothing else.  In what order, and how often a
    target is listed, is left open. -/
def FindsExactly (d : Document) (targets : List NodeId) (s : String) : Prop :=
  ∃ found, d.host.query s .document = .ok found ∧ ∀ e, e ∈ found ↔ e ∈ targets

/-- What the search tests by counting.  An answer without repetitions that has as many entries as
    there are targets, and each of them among its entries, has no room for anything else. -/
theorem isSameSet_iff_findsExactly (ht : d.tree.Reachable) (ha : d.tree.Acyclic) :
    d.host.isSameSet targets s = true ↔ d.FindsExactly targets s := by
  rw [← Host.resolvesTo_eq_isSameSet, Host.resolvesTo_iff_of_nodup fun found =>
    (regular_host ht ha).nodup_query _ _ found]
  constructor
  · rintro ⟨-, hfound⟩
    exact hfound
  · rintro ⟨found, hq, hmem⟩
    refine ⟨?_, found, hq, hmem⟩
    -- the empty text is no selector
    rintro rfl
    cases hq

/-- **Where a shared candidate finds the targets as the leaf of the meet, the search answers
    exactly when the chains agree on no leaf, or on one with which the meet finds the targets as it
    stands.** -/
theorem isSome_commonSelector?_iff_leaf (ht : d.tree.Reachable) (ha : d.tree.Acyclic)
    (o : Options) (hne : targets ≠ []) (hnd : targets.Nodup) {first : Chain} {others : List Chain}
    (hchains : targets.mapM (d.host.uniqueChain? o) = some (first :: others))
    (hs : ∀ e ∈ targets, s ∈ d.host.leafCandidates o e)
    (hfinds : d.FindsExactly targets ((first.meet others).withLeaf s).render) :
    (d.host.commonSelector? o targets).isSome = true ↔
      (first.meet others).leaf? = none ∨ d.FindsExactly targets (first.meet others).render := by
  obtain ⟨e, es, rfl⟩ := List.exists_cons_of_ne_nil hne
  have hd : distinct (e :: es) = e :: es := distinct_of_nodup hnd
  have hslots : (first.meet others).slots ≠ [] := by
    intro hnil
    have hempty : ((first.meet others).withLeaf s).render = "" := by
      rw [Chain.render, Chain.withLeaf, Chain.set, hnil]
      rfl
    -- a meet without places is rendered as the empty text, and that finds nothing
    obtain ⟨found, hq, -⟩ := hfinds
    rw [hempty] at hq
    cases hq
  rw [Host.commonSelector?_isSome_iff hd hchains]
  simp only [isSameSet_iff_findsExactly ht ha]
  constructor
  · rintro ⟨chain, ⟨-, leaf, hleaf, rfl⟩, hr⟩
    -- the chain that is answered ends with the leaf that was agreed on, or with a shared candidate
    -- in place of one
    rcases hleaf with hown | ⟨hnone, -⟩
    · rw [Chain.withLeaf_eq_self hown] at hr
      exact Or.inr hr
    · exact Or.inl hnone
  · intro hor
    cases hleaf : (first.meet others).leaf? with
    | none =>
      have hshared : s ∈ d.host.sharedCandidates o e es := Host.mem_sharedCandidates_iff.2 hs
      exact ⟨_, ⟨hslots, s, Or.inr ⟨hleaf, hshared⟩, rfl⟩, hfinds⟩
    | some leaf =>
      have hmeet : d.FindsExactly (e :: es) (first.meet others).render := by
        rw [hleaf] at hor
        exact hor.resolve_left (by simp)
      exact ⟨_, ⟨hslots, leaf, Or.inl hleaf, (Chain.withLeaf_eq_self hleaf).symm⟩, hmeet⟩

/-- The paragraphs at two depths agree on no leaf, and find each other by their class. -/
theorem isSome_commonSelector?_twoDepths :
    ([4, 2] : List NodeId) ≠ [] ∧ ([4, 2] : List NodeId).Nodup ∧
    [4, 2].mapM (twoDepths.host.uniqueChain? .standard) =
      some [⟨[some "div", some "ul", some ".on"]⟩, ⟨[some "div", some ".on"]⟩] ∧
    (∀ e ∈ ([4, 2] : List NodeId), ".on" ∈ twoDepths.host.leafCandidates .standard e) ∧
    twoDepths.FindsExactly [4, 2] (Chain.withLeaf ⟨[some "div", none, none]⟩ ".on").render ∧
    (twoDepths.host.commonSelector? .standard [4, 2]).isSome = true := by
  have hchains : [4, 2].mapM (twoDepths.host.uniqueChain? .standard) =
      some [⟨[some "div", some "ul", some ".on"]⟩, ⟨[some "div", some ".on"]⟩] := by
    decide +kernel
  have hshared : ∀ e ∈ ([4, 2] : List NodeId),
      ".on" ∈ twoDepths.host.leafCandidates .standard e := by decide +kernel
  have hquery : twoDepths.host.query "div .on" .document = .ok [2, 4] := by decide +kernel
  have hfinds : twoDepths.FindsExactly [4, 2]
      (Chain.withLeaf ⟨[some "div", none, none]⟩ ".on").render :=
    ⟨[2, 4], hquery, fun e => by simp [or_comm]⟩
  exact ⟨by decide, by decide, hchains, hshared, hfinds,
    (isSome_commonSelector?_iff_leaf (Tree.reachable_ofSteps _)
      (Tree.acyclic_of_parent?_lt (by decide +kernel)) .standard (by decide) (by decide) hchains
      hshared hfinds).2 (Or.inl rfl)⟩

/-- Three lists of one item each, all items of one class and two of them of another one, too. -/
def picks : Document := Document.ofSteps
  [.edit (.element "main"), .edit (.append 0 1),
   .edit (.element "ul"), .edit (.append 1 2), .edit (.element "li"), .edit (.append 2 3),
   .edit (.element "ul"), .edit (.append 1 4), .edit (.element "li"), .edit (.append 4 5),
   .edit (.element "ul"), .edit (.append 1 6), .edit (.element "li"), .edit (.append 6 7),
   .edit (.attribute 3 "class" "item pick"), .edit (.attribute 5 "class" "item pick"),
   .edit (.attribute 7 "class" "item"), .finalize]

/-- **A shared candidate is not enough.**  Each list has one item, so each chain ends in the class
    that comes first.  The chains agree on it, and the class that would tell the two items from the
    third is not tried. -/
theorem not_forall_isSome_of_shared :
    ¬ ∀ (d : Document) (o : Options) (targets : List NodeId) (first : Chain) (others : List Chain)
      (s : String), d.tree.Reachable → d.tree.Acyclic → targets ≠ [] → targets.Nodup →
      targets.mapM (d.host.uniqueChain? o) = some (first :: others) →
      (∀ e ∈ targets, s ∈ d.host.leafCandidates o e) →
      d.FindsExactly targets ((first.meet others).withLeaf s).render →
      (d.host.commonSelector? o targets).isSome = true := by
  intro h
  have hchains : [3, 5].mapM (picks.host.uniqueChain? .standard) =
      some [⟨[some "main", some "ul:first-child", some ".item"]⟩,
        ⟨[some "main", some "ul:nth-child(2)", some ".item"]⟩] := by decide +kernel
  have hshared : ∀ e ∈ ([3, 5] : List NodeId),
      ".pick" ∈ picks.host.leafCandidates .standard e := by decide +kernel
  have hquery : picks.host.query "main .pick" .document = .ok [3, 5] := by decide +kernel
  have hnone : (picks.host.commonSelector? .standard [3, 5]).isSome = false := by decide +kernel
  have hsome := h picks .standard [3, 5] _ _ ".pick" (Tree.reachable_ofSteps _)
    (Tree.acyclic_of_parent?_lt (by decide +kernel)) (by decide) (by decide) hchains hshared
    ⟨[3, 5], hquery, fun e => Iff.rfl⟩
  rw [hnone] at hsome
  cases hsome

end Document

end Pinpoint
