/-
  The grammar of answers.

  1. Where a plain element is described, the description is in plain words, and the candidates of
     the element are worded.
  2. The segments of a chain are candidates of the element and of its ancestors, and these are
     attached when the element is.
  3. The meet of chains has segments of the first one, and a leaf taken from elsewhere is a
     candidate of the first element.
  4. **So the answers of a search in a plain document are read as one alternative, compound by
     compound as the options allow** (`parse_answer`).
-/
import Pinpoint.Proofs.Search.Description
import Pinpoint.Proofs.Search.Meeting
import Pinpoint.Proofs.Search.Wording

namespace Pinpoint

/-! ## Plain elements

  Plain is said of an element through its host: its tag, its id, its classes and its attributes. -/

/-- A name character in lower case is one. -/
theorem isNameChar_toLower {c : Char} (h : Reader.isNameChar c = true) :
    Reader.isNameChar c.toLower = true := by
  cases hu : c.isUpper with
  | false =>
    rw [Ascii.toLower_of_not_isUpper hu]
    exact h
  | true =>
    -- a capital becomes a small letter
    unfold Reader.isNameChar Char.isAlphanum Char.isAlpha
    rw [Ascii.isLower_toLower hu]
    simp

/-- A plain name in lower case is one. -/
theorem isPlainName_lower {w : String} (h : isPlainName w = true) :
    isPlainName (Ascii.lower w) = true := by
  rw [isPlainName, Ascii.toList_lower, List.all_map]
  rw [isPlainName, List.all_eq_true] at h
  exact List.all_eq_true.2 fun c hc => isNameChar_toLower (h c hc)

namespace Host

variable {E ε : Type} {h : Host E ε} {o : Options} {e : E}

/-- **A plain element is described in plain words.**  What a description says is taken from the
    element: the tag in lower case, the values as they are, and a place that is neither the first
    nor the last if it has a number. -/
theorem isPlain_of_isOf {q : Description} (hq : q.IsOf h e) (hplain : h.isPlain e = true) :
    q.IsPlain := by
  simp only [isPlain, Bool.and_eq_true, List.all_eq_true] at hplain
  obtain ⟨⟨⟨htag, hid⟩, hclasses⟩, hattributes⟩ := hplain
  refine ⟨fun w hw => ?_, fun v hv => ?_, fun v hv => ?_, fun a ha => ?_, fun n hn => ?_⟩
  · obtain ⟨rfl, hne⟩ := hq.tag w hw
    exact ⟨hne, isPlainName_lower htag, Ascii.lower_lower _⟩
  · rw [hq.id v hv] at hid
    exact hid
  · exact hclasses v (hq.classes v hv)
  · exact hattributes a (hq.attributes a ha)
  · obtain ⟨index, count, -, hplace⟩ := hq.place _ hn
    exact Place.two_le_of_ofIndex hplace.symm

/-- The candidates of a plain element are worded. -/
theorem isWorded_of_mem_candidates (hplain : h.isPlain e = true) {kinds : List Kind}
    (hkinds : ∀ k ∈ kinds, k ∈ o.kinds) {s : String}
    (hs : s ∈ (h.tokens o e).candidates o kinds) : Chain.IsWorded o s := by
  obtain ⟨q, hq, hallowed, htext⟩ := exists_description hkinds hs
  exact ⟨ne_empty_of_mem_candidates hs, q, isPlain_of_isOf hq hplain, hallowed, htext⟩

/-! ## The segments of a chain

  Whose candidates the segments of a chain are. -/

/-- A leaf is a segment of the first chain, or a candidate of the first element; so are the other
    segments. -/
theorem get?_of_hasLeaf {first : E} {others : List E} {c chain : Chain} {cs : List Chain}
    (hleaf : Chain.HasLeaf (h.sharedCandidates o first others) (c.meet cs) chain) {i : Nat}
    {s : Segment} (hs : chain.get? i = some s) :
    c.get? i = some s ∨ s ∈ h.leafCandidates o first := by
  obtain ⟨-, leaf, hleaf, rfl⟩ := hleaf
  have hmeet : ∀ {j s}, (c.meet cs).get? j = some s → c.get? j = some s := fun hget =>
    Chain.get?_meet_eq_some_iff.1 hget c List.mem_cons_self
  rcases Chain.get?_set_eq_some hs with ⟨rfl, heq⟩ | hs
  · cases heq
    rcases hleaf with hown | ⟨-, hshared⟩
    · exact Or.inl (hmeet hown)
    · exact Or.inr (mem_sharedCandidates_iff.1 hshared first List.mem_cons_self)
  · exact Or.inl (hmeet hs)

variable [DecidableEq E]

/-- A level only has kinds that are in use. -/
theorem mem_kinds_of_mem_levels {kinds : List Kind} (h : kinds ∈ o.levels) :
    ∀ k ∈ kinds, k ∈ o.kinds := by
  obtain ⟨n, -, rfl⟩ := List.mem_map.1 h
  exact fun k hk => List.mem_of_mem_take hk

/-- A chain has the segments of the lineage on one of the levels: on the first one whose chain finds
    the element. -/
theorem exists_level_of_uniqueChain? {c : Chain} (hc : h.uniqueChain? o e = some c) :
    ∃ kinds ∈ o.levels,
      c = ⟨(h.tokenLineage o e).map fun (a, t) => h.segment? o kinds a t⟩ := by
  obtain ⟨kinds, hkinds, hk⟩ := List.exists_of_findSome?_eq_some hc
  obtain ⟨hchain, -⟩ := Option.filter_eq_some_iff.1 hk
  rw [chainAt?] at hchain
  dsimp only at hchain
  split at hchain
  · cases hchain
  · exact ⟨kinds, hkinds, (Option.some.inj hchain).symm⟩

/-- **A segment of a chain is a candidate of an element of the lineage**, and tells it from its
    siblings. -/
theorem exists_candidate_of_uniqueChain? {c : Chain} (hc : h.uniqueChain? o e = some c) {i : Nat}
    {s : Segment} (hs : c.get? i = some s) :
    ∃ a ∈ h.lineage e, h.isUniqueAmongSiblings a s = true ∧ ∃ kinds : List Kind,
      (∀ k ∈ kinds, k ∈ o.kinds) ∧ s ∈ (h.tokens o a).candidates o kinds := by
  obtain ⟨kinds, hkinds, rfl⟩ := exists_level_of_uniqueChain? hc
  obtain ⟨⟨a, t⟩, hat, hsegment⟩ := List.mem_map.1 (Chain.exists_get?_iff.1 ⟨i, hs⟩)
  obtain ⟨a, ha, heq⟩ := List.mem_map.1 hat
  cases heq
  exact ⟨a, List.mem_reverse.1 ha, List.find?_some hsegment, kinds,
    mem_kinds_of_mem_levels hkinds, List.mem_of_find?_eq_some hsegment⟩

end Host

/-! ## Plain documents

  Every attached element is plain.  Elements that hang nowhere are not asked for. -/

namespace Document

variable {d : Document} {o : Options} {e : NodeId} {c : Chain} {i : Nat} {s : Segment}

/-- Every element of a plain document is plain. -/
theorem isPlain_of_mem (hd : d.isPlain = true) (he : e ∈ d.elements) : d.host.isPlain e = true :=
  List.all_eq_true.1 hd e he

/-- An element that a text finds alone is attached. -/
theorem mem_elements_of_isUnique (h : d.host.isUnique e s = true) : e ∈ d.elements := by
  obtain ⟨-, hq⟩ := Host.isUnique_iff.1 h
  obtain ⟨x, -, heq⟩ := filterMatching_eq_ok_iff.1 hq
  have hmem : e ∈ (d.tree.descendants Tree.root).filter fun i => x.matchesAt d.tree i := by
    rw [← heq]
    exact List.mem_singleton_self e
  exact (List.mem_filter.1 hmem).1

/-- A text that finds targets is a selector. -/
theorem exists_parse_of_resolvesTo {targets : List NodeId}
    (hr : d.host.resolvesTo targets s = true) : ∃ y, Selector.parse s = .ok y := by
  rw [Host.resolvesTo_eq_isSameSet, Host.isSameSet_iff] at hr
  obtain ⟨-, found, hq, -⟩ := hr
  obtain ⟨y, hy, -⟩ := filterMatching_eq_ok_iff.1 hq
  exact ⟨y, hy⟩

/-- **The chain of an element in a plain document is worded**, segment by segment.  Each segment is
    a candidate of an element of the lineage, and this element is attached and so plain. -/
theorem isWorded_of_uniqueChain? (ht : d.tree.Reachable) (hd : d.isPlain = true)
    (hc : d.host.uniqueChain? o e = some c) (hs : c.get? i = some s) : Chain.IsWorded o s := by
  have he : e ∈ d.elements := mem_elements_of_isUnique (Host.isUnique_of_uniqueChain? hc)
  obtain ⟨a, ha, -, kinds, hkinds, hmem⟩ := Host.exists_candidate_of_uniqueChain? hc hs
  have hattached : a ∈ d.elements := by
    rw [Tree.lineage_eq] at ha
    rcases List.mem_cons.1 ha with rfl | ha
    · exact he
    · exact ht.mem_descendants_of_mem_ancestors he ha
  exact Host.isWorded_of_mem_candidates (isPlain_of_mem hd hattached) hkinds hmem

/-! ## Answers

  Both searches end by pruning a chain and writing it. -/

/-- A pruned chain is read as its segments allow.  It has found its targets, so its text is a
    selector; that it is one alternative, and which compounds it has, follows from the segments. -/
theorem parse_of_minimize {targets : List NodeId} {m : Chain}
    (hc : ∀ i s, c.get? i = some s → Chain.IsWorded o s)
    (hm : d.host.minimize targets c = some m) :
    ∃ x, Selector.parse m.render = .ok [x] ∧ ∀ p ∈ x, p.compound.AllowedBy o := by
  obtain ⟨y, hy⟩ := exists_parse_of_resolvesTo (Host.resolvesTo_of_minimize hm)
  obtain ⟨-, -, rfl⟩ := Host.minimize_eq_some_iff.1 hm
  have hthins := (Host.prunesTo_prune d.host targets c).thins
  obtain ⟨x, rfl, hx⟩ :=
    Chain.parse_render_of_isWorded (fun i s hs => hc i s (hthins.get?_eq_some hs)) hy
  exact ⟨x, hy, hx⟩

/-- **The grammar of answers.**  In a plain document every answer, for one element or for several,
    is read as one alternative.  Each of its compounds stands for a description that the options
    allow: a tag, an id, classes, attributes with their values, and a place, in this order and each
    of a kind in use; not more classes and attributes than may be put together; and no id and no
    class that is left out. -/
theorem parse_answer (ht : d.tree.Reachable) (hd : d.isPlain = true) (o : Options) (s : String)
    (hs : (∃ e, d.host.shortestSelector? o e = some s) ∨
      ∃ elements, d.host.commonSelector? o elements = some s) :
    ∃ x, Selector.parse s = .ok [x] ∧ ∀ p ∈ x, p.compound.AllowedBy o := by
  rcases hs with ⟨e, hs⟩ | ⟨elements, hs⟩
  · rw [Host.shortestSelector?_eq_map] at hs
    obtain ⟨c, hc, rfl⟩ := Option.map_eq_some_iff.1 hs
    have hr : d.host.resolvesTo [e] c.render = true := Host.isUnique_of_uniqueChain? hc
    exact parse_of_minimize (fun i s hs => isWorded_of_uniqueChain? ht hd hc hs)
      (Host.minimize_of_resolvesTo (by simp) hr)
  · obtain ⟨first, others, c, cs, chain, m, -, hm, hleaf, hmin, rfl⟩ :=
      Host.exists_hasLeaf_of_commonSelector? hs
    have hc : d.host.uniqueChain? o first = some c := Host.eq_some_of_mapM_cons hm
    refine parse_of_minimize (fun i s hs => ?_) hmin
    -- a segment of the chain is one of the first chain, or the leaf that was put in
    rcases Host.get?_of_hasLeaf hleaf hs with hs | hs
    · exact isWorded_of_uniqueChain? ht hd hc hs
    · have he : first ∈ d.elements := mem_elements_of_isUnique (Host.isUnique_of_uniqueChain? hc)
      exact Host.isWorded_of_mem_candidates (isPlain_of_mem hd he) (fun k hk => hk) hs

/-- A shelf of three items, two of them on sale, one of these with its price. -/
def shelf : Document := Document.ofSteps
  [.edit (.element "ul"), .edit (.append 0 1), .edit (.element "li"), .edit (.append 1 2),
   .edit (.element "li"), .edit (.append 1 3), .edit (.element "li"), .edit (.append 1 4),
   .edit (.attribute 2 "class" "item on-sale"), .edit (.attribute 3 "class" "item"),
   .edit (.attribute 4 "class" "item on-sale"), .edit (.attribute 4 "data-price" "3, or 4 > 2"),
   .finalize]

/-- No ids, the class of all items left out, and one class or attribute at a time. -/
def shelfOptions : Options :=
  (Settings.options ⟨some [.className, .attributes, .tag, .nthChild], some ["^data-"],
    some "^item$", some 1⟩).toOption.getD .standard

/-- The value of an attribute may look like a selector; quoted, it stays one value. -/
theorem parse_answer_shelf :
    shelf.isPlain = true ∧
    shelf.host.shortestSelector? shelfOptions 4 = some ".on-sale[data-price=\"3, or 4 > 2\"]" ∧
    shelf.host.commonSelector? shelfOptions [4, 2] = some ".on-sale" ∧
    (∃ x, Selector.parse ".on-sale[data-price=\"3, or 4 > 2\"]" = .ok [x] ∧
      ∀ p ∈ x, p.compound.AllowedBy shelfOptions) ∧
    ∃ x, Selector.parse ".on-sale" = .ok [x] ∧ ∀ p ∈ x, p.compound.AllowedBy shelfOptions := by
  have hd : shelf.isPlain = true := by decide +kernel
  have hone : shelf.host.shortestSelector? shelfOptions 4 =
      some ".on-sale[data-price=\"3, or 4 > 2\"]" := by decide +kernel
  have htwo : shelf.host.commonSelector? shelfOptions [4, 2] = some ".on-sale" := by
    decide +kernel
  have ht : shelf.tree.Reachable := Tree.reachable_ofSteps _
  exact ⟨hd, hone, htwo, parse_answer ht hd shelfOptions _ (Or.inl ⟨4, hone⟩),
    parse_answer ht hd shelfOptions _ (Or.inr ⟨[4, 2], htwo⟩)⟩

end Document

end Pinpoint
