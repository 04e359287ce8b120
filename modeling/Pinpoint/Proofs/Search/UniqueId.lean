/-
  An id of its own is the whole answer.

  The id of an element is tried first when ids are the first kind, and it tells the element from its
  siblings.  So the chain of every level ends with it, whatever the elements above have got; and where
  no other element has the id, such a chain finds the element and needs nothing else.

  1. A last segment that holds at one element alone: every chain that matches this element finds it
     alone, and **pruning leaves nothing but this segment** (`Finds.prune_eq_last`).
  2. The segments of a level: that of the element is its id, and on the last level the element at
     the top has one, too, so that there is a chain.
  3. **The answer is the id** (`shortestSelector?_of_unique_id`).
-/
import Pinpoint.Proofs.Document.Elements
import Pinpoint.Proofs.Search.Lineage
import Pinpoint.Proofs.Search.Standard

namespace Pinpoint.Document

variable {d : Document} {o : Options} {e r : NodeId} {kinds : List Kind} {v : String}

/-! ## A last segment that decides

  Pruning keeps a segment only where the chain finds something else without it.  With a last segment
  that decides, this is never so. -/

section Last

variable {c : Chain} {l : Nat} {s : Segment} {k : Compound} (ht : d.tree.Reachable)
  (ha : d.tree.Acyclic) (hparse : Selector.parse s = .ok [[⟨none, k⟩]])
  (halone : ∀ i ∈ d.elements, Compound.matchesAt d.tree i k = true → i = e)
include ht ha hparse halone

/-- A chain that matches the element finds it alone, whatever stands in the other places: its last
    segment has to hold at whatever it finds. -/
theorem resolvesTo_of_last (hc : c.OfCompounds) (hl : c.EndsAt l) (hs : c.get? l = some s)
    (he : e ∈ d.elements) (hm : c.parts.matchesAt d.tree e = true) :
    d.host.resolvesTo [e] c.render = true := by
  rw [resolvesTo_render_iff ht ha hc ⟨l, s, hs⟩]
  intro i
  rw [List.mem_singleton]
  constructor
  · rintro ⟨hi, hmi⟩
    exact halone i hi (hl.compound_matchesAt hs hparse ht (ha.wayUpEnds i) hmi)
  · rintro rfl
    exact ⟨he, hm⟩

/-- **Pruning leaves the last segment alone.** -/
theorem Finds.prune_eq_last (hf : d.Finds [e] l c) (hs : c.get? l = some s) :
    (d.host.prune [e] c).render = s := by
  obtain ⟨hf', -⟩ := hf.prunesTo ht ha (List.cons_ne_nil _ _) (Host.prunesTo_prune d.host [e] c)
  obtain ⟨-, hlast⟩ := hf.get?_prune ht ha (List.cons_ne_nil _ _) hs
  -- any other segment that is left would be one that the chain needs
  refine Chain.render_eq_of_only hlast fun i hil => ?_
  cases hi : (d.host.prune [e] c).get? i with
  | none => rfl
  | some s' =>
    -- without this segment the chain would find the element just as well
    have hneed := not_resolvesTo_without ht ha hf (List.cons_ne_nil _ _) hi
    have hr := hf'.resolves
    rw [resolvesTo_render_iff ht ha hf'.compounds ⟨l, s, hlast⟩] at hr
    obtain ⟨he, hm⟩ := (hr e).2 (List.mem_singleton_self e)
    have hsame : ((d.host.prune [e] c).without i).get? l = some s := by
      rw [Chain.get?_without_of_ne _ (Ne.symm hil), hlast]
    have hfinds := resolvesTo_of_last ht ha hparse halone
      (hf'.compounds.thins (Chain.thins_without _ i)) (hf'.endsAt.without hil) hsame he
      (Chain.matchesAt_without ht ha hf'.compounds hf'.endsAt hil hm)
    rw [hfinds] at hneed
    cases hneed

end Last

/-! ## The segments of a level

  A level has a chain if it has a segment for the element at the top.  That of the target is there
  on every level, and the one at the top is there on the last level at the latest. -/

namespace HasOneTop

variable (hd : d.HasOneTop r) (ht : d.tree.Reachable) (ha : d.tree.Acyclic)
include hd ht ha

/-- Every attached element hangs from an attached element or from the document node. -/
theorem nested : d.Nested where
  reachable := ht
  root_not_above := ha Tree.root
  parents i hi := by
    by_cases hir : i = r
    · exact Or.inl (hir ▸ (hd.parent?_top ht).1)
    · exact Or.inr (hd.parents i hi hir)

/-- The first place of a chain is that of the element at the top, since all lineages end there. -/
theorem head?_slots (he : e ∈ d.elements) :
    (d.host.levelChain o kinds e).slots.head? = some (d.host.levelSegment? o kinds r) := by
  have htop : (d.host.lineage e).getLast? = some r := by
    -- on the depth: the lineage of an element is that of its parent behind it
    induction hn : d.tree.elementDepth e using Nat.strongRecOn generalizing e with
    | _ n ih =>
      subst hn
      have hw := ha.wayUpEnds e
      by_cases her : e = r
      · rw [her, Tree.lineage_eq, Tree.ancestors_of_parentElement?_none (hd.parentElement?_top ht)]
        rfl
      · obtain ⟨p, hp⟩ := hd.parents e he her
        have hpe := ht.mem_descendants_of_parentElement? he hp
        rw [lineage_of_parentElement? ht hw hp, List.getLast?_cons,
          ih _ (ht.elementDepth_lt hw (.parent hp)) hpe rfl]
        rfl
  rw [Host.levelChain, List.head?_map, List.head?_reverse, htop]
  rfl

/-- An element is among those that its segment has to tell it from. -/
theorem mem_siblings (he : e ∈ d.elements) : e ∈ d.host.children (d.host.parent e) := by
  have hnested := hd.nested ht ha
  exact ht.mem_elementChildren_iff.2 ⟨hnested.parent?_eq he, hnested.isElement_of_mem he⟩

omit ha in
/-- With tags in use, the last level has a segment at the top. -/
theorem exists_levelSegment_top (htag : .tag ∈ o.kinds) (hplain : d.host.hasPlainNames r = true)
    (hreads : ∀ tag, d.tree.tagName? r = some tag →
      ∃ x, Selector.parse tag = .ok [[⟨none, [.tag x]⟩]]) :
    ∃ s, d.host.levelSegment? o o.kinds r = some s := by
  obtain ⟨tag, htagName⟩ := Tree.exists_tagName? (hd.parent?_top ht).2
  obtain ⟨x, hparse⟩ := hreads tag htagName
  have hname : isPlainName tag = true := by
    have hname : isPlainName ((d.tree.tagName? r).getD "") = true :=
      (Host.hasPlainNames_iff.1 hplain).1
    rwa [htagName] at hname
  have hne : tag ≠ "" := by
    rintro rfl
    cases hparse
  rw [← Option.isSome_iff_exists, Host.levelSegment?, Host.segment?, List.find?_isSome]
  refine ⟨tag, ?_, hd.isUniqueAmongSiblings_tag ht htagName (List.all_eq_true.1 hname) hparse⟩
  refine Tokens.mem_candidates (g := (.tag, [tag])) ?_ htag (List.mem_singleton_self tag)
  simp [Tokens.allGroups, tag_tokens ht htagName, hne]

/-- **On every level, the segment of the element is its id.**  Ids are the first kind and so in use
    on each level; the id is the first candidate there, and a sibling with the same id would be
    attached. -/
theorem levelSegment?_of_id (he : e ∈ d.elements) (hname : isPlainName v = true)
    (hfirst : o.kinds.head? = some .id) (hid : d.host.id e = some v) (hne : v ≠ "")
    (hexcluded : o.isExcluded v = false) (halone : ∀ i ∈ d.elements, d.host.id i = some v → i = e)
    (hkinds : kinds ∈ o.levels) : d.host.levelSegment? o kinds e = some ("#" ++ v) := by
  have hnested := hd.nested ht ha
  have husable : o.isUsable v = true := by
    rw [Options.isUsable, hexcluded, String.isEmpty_eq_false_iff.2 hne]
    rfl
  -- it is tried first, and it finds the element among its siblings
  have hunique : d.host.isUniqueAmongSiblings e ("#" ++ v) = true := by
    refine Host.isUniqueAmongSiblings_iff.2 ⟨Host.append_ne_empty (by decide), ?_⟩
    refine filterMatching_eq_ok_iff.2 ⟨_, Selector.parse_id hname hne, ?_⟩
    refine (filter_eq_singleton (ht.nodup_elementChildren _) (hd.mem_siblings ht ha he) ?_).symm
    intro i hi
    have hattached := hnested.mem_of_mem_children (hnested.mem_of_parent he) hi
    rw [matchesAt_singleton, matchesAt_id_iff]
    constructor
    · exact halone i hattached
    · rintro rfl
      exact hid
  obtain ⟨rest, hrest⟩ := Host.exists_candidates_of_first_id hfirst hid husable hkinds
  rw [Host.levelSegment?, Host.segment?, hrest, List.find?_cons, hunique]

end HasOneTop

/-! ## The answer

  Which of the levels is taken depends on the element at the top, but they all come to the same. -/

/-- **A unique id always wins.**  Where there is one element at the top, whose tag can be read, and
    all names are plain: when ids are the first kind in use, tags are in use, too, and attributes are
    not, an element with an id that is neither empty nor left out and that no other attached element
    has is answered by this id. -/
theorem shortestSelector?_of_unique_id (ht : d.tree.Reachable) (ha : d.tree.Acyclic)
    (hd : d.HasOneTop r)
    (hreads : ∀ tag, d.tree.tagName? r = some tag →
      ∃ x, Selector.parse tag = .ok [[⟨none, [.tag x]⟩]])
    (hplain : ∀ i ∈ d.elements, d.host.hasPlainNames i = true)
    (hfirst : o.kinds.head? = some .id) (htag : .tag ∈ o.kinds) (ho : o.attributes = [])
    (he : e ∈ d.elements) (hid : d.host.id e = some v) (hne : v ≠ "")
    (hexcluded : o.isExcluded v = false)
    (halone : ∀ i ∈ d.elements, d.host.id i = some v → i = e) :
    d.host.shortestSelector? o e = some ("#" ++ v) := by
  have hname : isPlainName v = true := (Host.hasPlainNames_iff.1 (hplain e he)).2.1 v hid
  have hparse := Selector.parse_id hname hne
  have hmatch : ∀ i ∈ d.elements, Compound.matchesAt d.tree i [.id v] = true → i = e :=
    fun i hi hm => halone i hi (matchesAt_id_iff.1 hm)
  -- the chain of any level ends with the id and finds the element
  have hfinds : ∀ kinds ∈ o.levels,
      d.Finds [e] (d.tree.ancestors e).length (d.host.levelChain o kinds e) ∧
      (d.host.levelChain o kinds e).get? (d.tree.ancestors e).length = some ("#" ++ v) := by
    intro kinds hkinds
    have hs := hd.levelSegment?_of_id ht ha he hname hfirst hid hne hexcluded halone hkinds
    have hslots := levelChain_slots d o kinds e
    rw [hs] at hslots
    obtain ⟨hends, hget⟩ := Chain.endsAt_of_slots hslots
    rw [List.length_map, List.length_reverse] at hends hget
    have hc := ofCompounds_levelChain ht ha hplain ho he hkinds
    have hm := matchesAt_levelChain ht ha hplain ho he hkinds hs
    exact ⟨⟨hc, hends, resolvesTo_of_last ht ha hparse hmatch hc hends hget he hm⟩, hget⟩
  -- the last level has a chain, if no level before it has
  have hsome : (d.host.uniqueChain? o e).isSome = true := by
    have hkinds : o.kinds ≠ [] := List.ne_nil_of_mem htag
    obtain ⟨s, hs⟩ :=
      hd.exists_levelSegment_top ht htag (hplain r (hd.mem_elements ht (ha Tree.root))) hreads
    have hhead : (d.host.levelChain o o.kinds e).slots.head? ≠ some none := by
      rw [hd.head?_slots ht ha he, hs]
      simp
    exact Host.uniqueChain?_isSome hkinds (Host.chainAt?_eq_levelChain hhead)
      (hfinds o.kinds (Options.kinds_mem_levels hkinds)).1.resolves
  obtain ⟨c, hc⟩ := Option.isSome_iff_exists.1 hsome
  obtain ⟨kinds, hkinds, rfl⟩ := Host.exists_levelChain_of_uniqueChain? hc
  obtain ⟨hf, hget⟩ := hfinds kinds hkinds
  rw [Host.shortestSelector?_eq_map, hc, Option.map_some,
    hf.prune_eq_last ht ha hparse hmatch hget]

/-- Two items of a list, the second one with a price. -/
def priceList : Document := Document.ofSteps
  [.edit (.element "html"), .edit (.append 0 1), .edit (.element "body"), .edit (.append 1 2),
   .edit (.element "ul"), .edit (.append 2 3), .edit (.element "li"), .edit (.append 3 4),
   .edit (.element "li"), .edit (.append 3 5), .edit (.element "b"), .edit (.append 5 6),
   .edit (.attribute 6 "id" "price"), .finalize]

/-- With ids and tags alone the item of the price has no segment, and the chain has a gap there;
    nothing of it is left in the answer. -/
theorem shortestSelector?_of_unique_id_price :
    priceList.host.uniqueChain? (Options.standard.withKinds [.id, .tag]) 6 =
      some ⟨[some "html", some "body", some "ul", none, some "#price"]⟩ ∧
    priceList.host.shortestSelector? (Options.standard.withKinds [.id, .tag]) 6 =
      some "#price" := by
  have hparents : ∀ i ∈ priceList.elements, i ≠ 1 →
      (priceList.tree.parentElement? i).isSome = true := by decide +kernel
  have hd : priceList.HasOneTop 1 :=
    ⟨by decide +kernel, fun i hi hne => Option.isSome_iff_exists.1 (hparents i hi hne)⟩
  have htop : priceList.tree.tagName? 1 = some "html" := by decide +kernel
  have hreads : ∀ tag, priceList.tree.tagName? 1 = some tag →
      ∃ x, Selector.parse tag = .ok [[⟨none, [.tag x]⟩]] := by
    intro tag htag
    rw [htop] at htag
    cases htag
    exact ⟨"html", by decide +kernel⟩
  have ht : priceList.tree.Reachable := Tree.reachable_ofSteps _
  have ha : priceList.tree.Acyclic := Tree.acyclic_of_parent?_lt (by decide +kernel)
  have hid : priceList.host.id 6 = some "price" := by decide +kernel
  have hanswer := shortestSelector?_of_unique_id (o := Options.standard.withKinds [.id, .tag]) ht ha
    hd hreads (by decide +kernel) (by decide) (by decide) rfl (by decide +kernel) hid (by decide)
    rfl (by decide +kernel)
  have htext : "#" ++ "price" = "#price" := by decide
  rw [htext] at hanswer
  exact ⟨by decide +kernel, hanswer⟩

end Pinpoint.Document
