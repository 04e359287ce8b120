/-
  What chains keep when they are laid over each other.

  In a plain document the chain of an element holds along its lineage, segment by segment.  The meet
  of several chains has no segment that is not in all of them, so it holds along every one of their
  lineages, as far as these are equally long.

  1. **One element**, listed as often as one likes, has the answer of the search for one element
     (`commonSelector?_eq_shortestSelector?`): its chain ends with a segment, and no leaf is tried.
  2. A leaf put behind other segments is read as what it describes, where the whole text is read
     (`parse_concat_text`); alone it need not even be a selector.
  3. **Several elements**: the meet matches all of them, with a leaf of its own or with a candidate
     that they share (`meet_findsAll`).  Where it does not find them, it finds others, too.
-/
import Pinpoint.Proofs.Search.Agreement
import Pinpoint.Proofs.Search.Faithful
import Pinpoint.Proofs.Search.Lineage

namespace Pinpoint

/-! ## One element

  The search for several elements, asked for one. -/

/-- A list of one thing, repeated, has one thing in it. -/
theorem distinct_eq_singleton {α : Type} [DecidableEq α] {l : List α} {a : α} (hne : l ≠ [])
    (hall : ∀ x ∈ l, x = a) : distinct l = [a] := by
  obtain ⟨x, l, rfl⟩ := List.exists_cons_of_ne_nil hne
  obtain ⟨rfl, hl⟩ := List.forall_mem_cons.1 hall
  rw [distinct, List.filter_eq_nil_iff.2]
  intro y hy
  simpa using hl y (mem_distinct.1 hy)

/-- A chain alone is its own meet. -/
theorem Chain.meet_nil (c : Chain) : c.meet [] = c := by
  refine ext_get? (length_meet c []) fun i s => ?_
  rw [get?_meet_eq_some_iff, List.forall_mem_singleton]

namespace Document

variable {d : Document} {o : Options} {elements : List NodeId} {e : NodeId}

/-- **One element listed alone, once or often, is answered as by the search for one element**, in
    every plain document, also where neither search answers.  Its chain finds it and so has a leaf,
    and pruning is the same for a set of one. -/
theorem commonSelector?_eq_shortestSelector? (ht : d.tree.Reachable) (ha : d.tree.Acyclic)
    (hplain : d.isPlain = true) (o : Options) (hne : elements ≠ []) (hall : ∀ x ∈ elements, x = e) :
    d.host.commonSelector? o elements = d.host.shortestSelector? o e := by
  have hdistinct := distinct_eq_singleton hne hall
  rw [Host.shortestSelector?_eq_map]
  cases hc : d.host.uniqueChain? o e with
  | none =>
    -- an answer would need a chain
    cases hs : d.host.commonSelector? o elements with
    | none => rfl
    | some s =>
      obtain ⟨first, others, c, cs, hd, hm⟩ := Host.exists_chains_of_commonSelector? hs
      rw [hdistinct, List.cons.injEq] at hd
      obtain ⟨rfl, rfl⟩ := hd
      rw [Host.eq_some_of_mapM_cons hm] at hc
      cases hc
  | some c =>
    have hu := Host.isUnique_of_uniqueChain? hc
    have hr : d.host.resolvesTo [e] c.render = true := hu
    obtain ⟨leaf, hleaf⟩ := (holdsAlong_of_uniqueChain? ht ha hplain hc).exists_leaf ht ha hu
    have hslots : c.slots ≠ [] := by
      obtain ⟨left, hslots⟩ := Chain.leaf?_eq_some_iff.1 hleaf
      simp [hslots]
    have hm : [e].mapM (d.host.uniqueChain? o) = some [c] := by
      rw [Host.mapM_eq_some_iff]
      simp [hc]
    rw [Host.commonSelector?_of_chains hdistinct hm, Chain.meet_nil,
      Host.withLeaf?_of_ne_nil hslots, hleaf, Option.bind_some, ← Host.isUnique_eq_isSameSet, hu,
      if_pos rfl, Host.minimize_of_resolvesTo (List.cons_ne_nil _ _) hr, Option.map_some,
      Option.map_some]

/-- The item with a price listed three times; with ids alone neither search finds it. -/
theorem commonSelector?_eq_shortestSelector?_shelf :
    shelf.isPlain = true ∧
    shelf.host.commonSelector? .standard [3, 3, 3] = some ".item:nth-child(2)" ∧
    shelf.host.shortestSelector? .standard 3 = some ".item:nth-child(2)" ∧
    shelf.host.commonSelector? (Options.standard.withKinds [.id]) [3] = none ∧
    shelf.host.shortestSelector? (Options.standard.withKinds [.id]) 3 = none := by
  have hplain : shelf.isPlain = true := by decide +kernel
  have hsame : ∀ (o : Options) (elements : List NodeId), elements ≠ [] → (∀ x ∈ elements, x = 3) →
      shelf.host.commonSelector? o elements = shelf.host.shortestSelector? o 3 := fun o _ =>
    commonSelector?_eq_shortestSelector? (Tree.reachable_ofSteps _)
      (Tree.acyclic_of_parent?_lt (by decide +kernel)) hplain o
  have hsome : shelf.host.shortestSelector? .standard 3 = some ".item:nth-child(2)" := by
    decide +kernel
  have hnone : shelf.host.shortestSelector? (Options.standard.withKinds [.id]) 3 = none := by
    decide +kernel
  exact ⟨hplain, (hsame _ _ (by decide) (by decide)).trans hsome, hsome,
    (hsame _ _ (by decide) (by decide)).trans hnone, hnone⟩

end Document

/-! ## A leaf behind other segments

  A shared candidate has been tried nowhere as a selector by itself.  What it is read as follows
  from the whole text. -/

namespace Chain

open Reader

variable {c : Chain} {left : List (Option Segment)} {x : Option Segment} {q : Description}
  {y : Selector} {r : List Char}

/-- Filling the last place leaves the places before it. -/
theorem withLeaf_of_slots (hslots : c.slots = left ++ [x]) (leaf : Segment) :
    c.withLeaf leaf = ⟨left ++ [some leaf]⟩ := by
  rw [withLeaf, set, length, hslots, List.length_append, List.length_singleton, Nat.add_sub_cancel,
    List.set_append_right _ _ (Nat.le_refl _), Nat.sub_self, List.set_cons_zero]

/-- Behind empty places alone a selector is still to start. -/
theorem after_eq_start {slots : List (Option Segment)} (h : ∀ x ∈ slots, x = none) :
    Joint.start.after slots = .start := by
  induction slots with
  | nil => rfl
  | cons x slots ih =>
    obtain ⟨rfl, hlater⟩ := List.forall_mem_cons.1 h
    exact ih hlater

/-- Behind a segment there is something to join. -/
theorem after_ne_start_of_mem {s : Segment} (h : some s ∈ left) (j : Joint) :
    j.after left ≠ .start := by
  induction left generalizing j with
  | nil => cases h
  | cons x left ih =>
    cases x with
    | none => exact ih (by simpa using h) j.skip
    | some s' => exact after_ne_start left .adjacent (by simp)

/-- A joint that joins something starts with a space. -/
theorem exists_toList_text {j : Joint} (hj : j ≠ .start) : ∃ u, j.text.toList = ' ' :: u := by
  cases j with
  | start => exact absurd rfl hj
  | adjacent => exact ⟨_, rfl⟩
  | gap => exact ⟨_, rfl⟩

/-- The text of a description behind a joint is read as its compound, linked as the joint says.  It
    starts with no blank, so the link takes all blanks there are. -/
theorem laterParts_text {j : Joint} (hj : j ≠ .start) (hq : q.IsPlain) (hne : q.text ≠ "")
    {ps : List Part} (h : laterParts (j.text.toList ++ q.text.toList) = .ok (ps, r)) :
    ps = j.relink [⟨none, q.compound⟩] ∧ r = [] := by
  have hcomplex : complex q.text.toList = .ok ([⟨none, q.compound⟩], []) := by
    have hskip := hq.skipBlanks_text hne []
    obtain ⟨op, hlink⟩ := exists_link hj hq hne []
    rw [List.append_nil] at hskip hlink
    rw [laterParts_of_some hlink] at h
    obtain ⟨⟨k, r'⟩, hk, -⟩ := bind_ok_iff.1 h
    rw [complex_eq, hskip, hk, ok_bind]
    rw [← List.append_nil q.text.toList] at hk
    have hends : EndsCompound [] := trivial
    obtain ⟨rfl, rfl, -⟩ := hq.compound_text hends hk
    rw [laterParts_nil, ok_bind]
  cases j with
  | start => exact absurd rfl hj
  | adjacent =>
    have hread : laterParts (" > ".toList ++ q.text.toList) = _ := laterParts_child hcomplex
    rw [Joint.text, hread] at h
    cases h
    exact ⟨rfl, rfl⟩
  | gap =>
    have hread : laterParts (" ".toList ++ q.text.toList) = _ := laterParts_space hcomplex
    rw [Joint.text, hread] at h
    cases h
    exact ⟨rfl, rfl⟩

/-- **A description behind other segments is read as its compound**, where the whole text is read.
    Some blanks are characters of names, and a name of such blanks is no selector alone; so nothing
    is asked of the description alone. -/
theorem parse_concat_text (hleft : ∀ s, some s ∈ left → s.IsAlternative) (hq : q.IsPlain)
    (hne : q.text ≠ "") (h : Selector.parse (render ⟨left ++ [some q.text]⟩) = .ok y) :
    y = [partsFrom .start left ++ (Joint.start.after left).relink [⟨none, q.compound⟩]] := by
  -- with nothing before it the description is the whole text, and is read without a link
  by_cases hempty : ∀ x ∈ left, x = none
  · have htext : render ⟨left ++ [some q.text]⟩ = q.text := by
      rw [render, renderFrom_start_append hempty, renderFrom, renderFrom, String.append_empty]
      exact String.empty_append
    rw [htext] at h
    obtain ⟨rfl, -⟩ := hq.parse_text hne h
    rw [partsFrom_eq_nil hempty, after_eq_start hempty]
    rfl
  · obtain ⟨s, hmem⟩ : ∃ s, some s ∈ left := by
      push Not at hempty
      obtain ⟨x, hx, hsome⟩ := hempty
      obtain ⟨s, rfl⟩ := Option.ne_none_iff_exists'.1 hsome
      exact ⟨s, hx⟩
    have hfront := complex_renderFrom hleft ⟨s, hmem⟩
    have hj := after_ne_start_of_mem hmem .start
    have htext : (render ⟨left ++ [some q.text]⟩).toList = (renderFrom .start left).toList ++
        ((Joint.start.after left).text.toList ++ q.text.toList) := by
      rw [render, renderFrom_append, renderFrom, renderFrom, String.append_empty,
        String.toList_append, String.toList_append]
    obtain ⟨u, hu⟩ := exists_toList_text hj
    obtain ⟨x, r, hx, hy⟩ := Selector.exists_complex_of_parse h
    rw [htext, hu, List.cons_append, complex_append hfront] at hx
    obtain ⟨⟨ps, r'⟩, hps, heq⟩ := map_ok_iff.1 hx
    rw [← List.cons_append, ← hu] at hps
    obtain ⟨rfl, rfl⟩ := laterParts_text hj hq hne hps
    cases heq
    exact hy rfl

end Chain

/-! ## Several elements

  That the meet matches every target is one half of finding them; the other half, that it matches no
  other element, is what the search tests. -/

namespace Document

variable {d : Document} {o : Options} {e : NodeId} {targets : List NodeId} {c : Chain} {s : Segment}
  {y : Selector}

/-- The selector is answered, and the targets are among what it finds. -/
def FindsAll (d : Document) (targets : List NodeId) (s : String) : Prop :=
  ∃ found, d.host.query s .document = .ok found ∧ ∀ e ∈ targets, e ∈ found

/-- A selector that can be read finds the attached elements that it matches. -/
theorem findsAll_of_matchesAt (hparse : Selector.parse s = .ok y)
    (h : ∀ e ∈ targets, e ∈ d.elements ∧ y.matchesAt d.tree e = true) : d.FindsAll targets s :=
  ⟨_, filterMatching_eq_ok_iff.2 ⟨y, hparse, rfl⟩, fun e he => List.mem_filter.2 (h e he)⟩

/-- Where a selector that finds all targets fails, it finds another element, too. -/
theorem FindsAll.exists_not_mem (h : d.FindsAll targets s) (ht : d.tree.Reachable)
    (ha : d.tree.Acyclic) (hfails : d.host.isSameSet targets s = false) :
    ∃ found, d.host.query s .document = .ok found ∧ (∀ e ∈ targets, e ∈ found) ∧
      ∃ e ∈ found, e ∉ targets := by
  obtain ⟨found, hq, hmem⟩ := h
  refine ⟨found, hq, hmem, ?_⟩
  by_contra hnone
  push Not at hnone
  have hexactly : d.FindsExactly targets s := ⟨found, hq, fun e => ⟨hnone e, hmem e⟩⟩
  rw [(isSameSet_iff_findsExactly ht ha).2 hexactly] at hfails
  cases hfails

/-- **A chain with a description for its leaf matches the element described**, where it is read. -/
theorem matchesAt_withLeaf {q : Description} (h : c.HoldsAlong d e) (ht : d.tree.Reachable)
    (hw : d.tree.WayUpEnds e) (hq : q.IsPlain) (hne : q.text ≠ "")
    (hmatch : q.compound.matchesAt d.tree e = true)
    (hparse : Selector.parse (c.withLeaf q.text).render = .ok y) : y.matchesAt d.tree e = true := by
  obtain ⟨left, x, hslots⟩ := h.exists_slots
  have hleft : ∀ s, some s ∈ left → s.IsAlternative := by
    intro s hmem
    have hslot : some s ∈ c.slots := by
      rw [hslots]
      exact List.mem_append_left _ hmem
    obtain ⟨i, hi⟩ := Chain.exists_get?_iff.2 hslot
    obtain ⟨p, hp⟩ := h.ofCompounds i s hi
    exact Segment.isAlternative hp
  rw [Chain.withLeaf_of_slots hslots] at hparse
  obtain rfl := Chain.parse_concat_text hleft hq hne hparse
  obtain ⟨p, hreaches, hparent⟩ := h.reaches_above ht hw hslots
  rw [Selector.matchesAt, List.any_cons, List.any_nil, Bool.or_false]
  exact hreaches.link ht hw hparent hmatch

section Targets

variable {first : Chain} {others : List Chain} (ht : d.tree.Reachable) (ha : d.tree.Acyclic)
  (hplain : d.isPlain = true)
  (hchains : targets.mapM (d.host.uniqueChain? o) = some (first :: others))
  (hlen : ∀ c ∈ others, c.length = first.length)
include ht ha hplain hchains hlen

/-- **The meet holds along the lineage of every target.**  Its segments are segments of each chain,
    in the same places, and the lineages are equally long. -/
theorem holdsAlong_meet (he : e ∈ targets) :
    e ∈ d.elements ∧ (first.meet others).HoldsAlong d e := by
  obtain ⟨hall, heq⟩ := Host.mapM_eq_some_iff.1 hchains
  obtain ⟨c, hc⟩ := Option.isSome_iff_exists.1 (hall e he)
  have hmem : c ∈ first :: others := by
    rw [heq]
    exact List.mem_filterMap.2 ⟨e, he, hc⟩
  have hlength : first.length = c.length := by
    rcases List.mem_cons.1 hmem with rfl | hmem
    · rfl
    · exact (hlen c hmem).symm
  refine ⟨mem_elements_of_isUnique (Host.isUnique_of_uniqueChain? hc), ?_⟩
  refine (holdsAlong_of_uniqueChain? ht ha hplain hc).of_get? ?_ fun i s hs => ?_
  · rw [Chain.length_meet, hlength]
  · exact Chain.get?_meet_eq_some_iff.1 hs c hmem

/-- With a leaf of its own the meet finds all targets: it holds along the lineage of each, and its
    last segment is the leaf. -/
theorem findsAll_of_leaf (hleaf : (first.meet others).leaf? = some s) :
    d.FindsAll targets (first.meet others).render := by
  have hholds := fun e he => holdsAlong_meet ht ha hplain hchains hlen (e := e) he
  obtain ⟨e, he⟩ : ∃ e, e ∈ targets := by
    refine List.exists_mem_of_ne_nil _ ?_
    rintro rfl
    cases hchains
  have hparse := (hholds e he).2.ofCompounds.parse_render ⟨_, s, hleaf⟩
  refine findsAll_of_matchesAt hparse fun e he => ⟨(hholds e he).1, ?_⟩
  rw [Selector.matchesAt, List.any_cons, List.any_nil, Bool.or_false]
  exact (hholds e he).2.matchesAt ht (ha.wayUpEnds e) hleaf

/-- With a candidate that all targets share for its leaf, the meet is refused or finds them.  Each
    of the targets describes itself by this text, in a way of its own maybe, but the text is read as
    one compound. -/
theorem error_or_findsAll_of_shared (hnames : ∀ a ∈ d.elements, d.host.hasDistinctNames a = true)
    (hs : ∀ e ∈ targets, s ∈ d.host.leafCandidates o e) :
    (∃ err, Selector.parse ((first.meet others).withLeaf s).render = .error err) ∨
      d.FindsAll targets ((first.meet others).withLeaf s).render := by
  cases hparse : Selector.parse ((first.meet others).withLeaf s).render with
  | error err => exact Or.inl ⟨err, rfl⟩
  | ok y =>
    refine Or.inr (findsAll_of_matchesAt hparse fun e he => ?_)
    obtain ⟨hattached, hholds⟩ := holdsAlong_meet ht ha hplain hchains hlen he
    have hel := ((ht.mem_descendants_iff (ha Tree.root)).1 hattached).2
    -- each target describes itself by the same text
    obtain ⟨q, hq, rfl, hmatch⟩ := exists_description_matchesAt hel
      (isPlain_of_mem hplain hattached) (hnames e hattached) (fun _ hk => hk) (hs e he)
    exact ⟨hattached, matchesAt_withLeaf hholds ht (ha.wayUpEnds e) hq
      (Host.ne_empty_of_mem_candidates (hs e he)) hmatch hparse⟩

end Targets

/-- **The meet loses no target of equal depth.**  In a plain document where no names of attributes
    of one element differ in case alone, let the chains of some targets be equally long.  Either
    their meet has a leaf and finds all targets, or it has none, and every candidate that the
    targets share makes it a text that is refused or finds them all.  So a leaf that fails finds too
    much. -/
theorem meet_keeps_targets (ht : d.tree.Reachable) (ha : d.tree.Acyclic) (hplain : d.isPlain = true)
    (hnames : ∀ a ∈ d.elements, d.host.hasDistinctNames a = true) (o : Options) {first : Chain}
    {others : List Chain} (hchains : targets.mapM (d.host.uniqueChain? o) = some (first :: others))
    (hlen : ∀ c ∈ others, c.length = first.length) :
    (((∃ s, (first.meet others).leaf? = some s) ∧ d.FindsAll targets (first.meet others).render) ∨
      ((first.meet others).leaf? = none ∧
        ∀ s, (∀ e ∈ targets, s ∈ d.host.leafCandidates o e) →
          (∃ err, Selector.parse ((first.meet others).withLeaf s).render = .error err) ∨
            d.FindsAll targets ((first.meet others).withLeaf s).render)) ∧
    ∀ given : List Segment, (∀ s ∈ given, ∀ e ∈ targets, s ∈ d.host.leafCandidates o e) →
      ∀ chain, Chain.HasLeaf given (first.meet others) chain →
        d.host.isSameSet targets chain.render = false →
          (∃ err, Selector.parse chain.render = .error err) ∨
            ∃ found, d.host.query chain.render .document = .ok found ∧
              (∀ e ∈ targets, e ∈ found) ∧ ∃ e ∈ found, e ∉ targets := by
  -- a leaf that all chains have, and one that they are given, both keep all targets
  have hown := fun s => findsAll_of_leaf (s := s) ht ha hplain hchains hlen
  have hshared := fun s => error_or_findsAll_of_shared (s := s) ht ha hplain hchains hlen hnames
  refine ⟨?_, fun given hgiven chain hchain hfails => ?_⟩
  · cases hleaf : (first.meet others).leaf? with
    | some s => exact Or.inl ⟨⟨s, rfl⟩, hown s hleaf⟩
    | none => exact Or.inr ⟨rfl, hshared⟩
  · obtain ⟨-, s, hleaf, rfl⟩ := hchain
    rcases hleaf with hleaf | ⟨-, hmem⟩
    · rw [Chain.withLeaf_eq_self hleaf] at hfails ⊢
      exact Or.inr ((hown s hleaf).exists_not_mem ht ha hfails)
    · exact (hshared s (hgiven s hmem)).imp_right fun hfinds =>
        hfinds.exists_not_mem ht ha hfails

/-- Two items of two lists agree on their class, which a third item has, too.  Two items of one list
    agree on no leaf; of the classes that they share, the first one is that of all items. -/
theorem meet_keeps_targets_items :
    picks.FindsAll [3, 5] "main .item" ∧
    shelf.FindsAll [4, 2] "ul > .on-sale" ∧
    ∃ found, shelf.host.query "ul > .item" .document = .ok found ∧
      (∀ e ∈ ([4, 2] : List NodeId), e ∈ found) ∧ ∃ e ∈ found, e ∉ ([4, 2] : List NodeId) := by
  have hpicks : [3, 5].mapM (picks.host.uniqueChain? .standard) =
      some [⟨[some "main", some "ul:first-child", some ".item"]⟩,
        ⟨[some "main", some "ul:nth-child(2)", some ".item"]⟩] := by decide +kernel
  have hshelf : [4, 2].mapM (shelf.host.uniqueChain? .standard) =
      some [⟨[some "ul", some ".item:last-child"]⟩, ⟨[some "ul", some ".item:first-child"]⟩] := by
    decide +kernel
  have hshared : ∀ s ∈ ([".on-sale", ".item"] : List Segment), ∀ e ∈ ([4, 2] : List NodeId),
      s ∈ shelf.host.leafCandidates .standard e := by decide +kernel
  have hlists := (meet_keeps_targets (Tree.reachable_ofSteps _)
    (Tree.acyclic_of_parent?_lt (by decide +kernel)) (by decide +kernel) (by decide +kernel)
    .standard hpicks (by decide)).1
  obtain ⟨hleaves, htoomany⟩ := meet_keeps_targets (Tree.reachable_ofSteps _)
    (Tree.acyclic_of_parent?_lt (by decide +kernel)) (by decide +kernel) (by decide +kernel)
    .standard hshelf (by decide)
  have hsale : Selector.parse "ul > .on-sale" =
      .ok [[⟨none, [.tag "ul"]⟩, ⟨some .child, [.className "on-sale"]⟩]] := by decide +kernel
  have hitem : Selector.parse "ul > .item" =
      .ok [[⟨none, [.tag "ul"]⟩, ⟨some .child, [.className "item"]⟩]] := by decide +kernel
  refine ⟨?_, ?_, ?_⟩
  · refine (hlists.resolve_right ?_).2
    rintro ⟨hnone, -⟩
    cases hnone
  · refine ((hleaves.resolve_left ?_).2 ".on-sale" (hshared _ (by decide))).resolve_left ?_
    · rintro ⟨⟨s, hs⟩, -⟩
      cases hs
    · rintro ⟨err, herr⟩
      cases hsale.symm.trans herr
  · refine (htoomany _ hshared _ ⟨by decide, ".item", Or.inr ⟨rfl, by decide⟩, rfl⟩
      (by decide +kernel)).resolve_left ?_
    rintro ⟨err, herr⟩
    cases hitem.symm.trans herr

end Document

end Pinpoint
