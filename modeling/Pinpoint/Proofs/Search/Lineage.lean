/-
  Chains of segments that hold at their own elements.

  A level gives each element of a lineage a segment or none, so its chain may have empty places
  anywhere.  Going down the lineage, one place at a time, what has been written so far always
  matches something on the way.

  1. **The step** (`Joint.Reaches.step`): behind a segment the parts match the element reached,
     behind a gap an element above it; and as long as nothing has been written there is nothing to
     match.
  2. The last segment: its compound holds wherever the chain matches, its text ends the selector,
     and pruning keeps it.
  3. A chain that **holds along a lineage** (`HoldsAlong`): each of its segments holds at the
     element of its place.  Leaving segments out changes nothing in this.
  4. **The run** (`HoldsAlong.reaches_above`), from the top down.  So such a chain matches its
     element where it has a segment for it (`HoldsAlong.matchesAt`), and where it finds the element
     it has one (`HoldsAlong.exists_leaf`).
  5. The chain of a level holds along its lineage, since each segment has told its element from its
     siblings; so **an answer ends with a segment of its element**
     (`exists_segment_of_shortestSelector?`).
-/
import Pinpoint.Proofs.Search.Anchoring
import Pinpoint.Proofs.Search.Bare
import Pinpoint.Proofs.Search.Minimality

namespace Pinpoint

/-- The segment reads as one compound, and this compound holds at the node. -/
def Segment.HoldsAt (t : Tree) (i : NodeId) (s : Segment) : Prop :=
  ∃ k, Selector.parse s = .ok [[⟨none, k⟩]] ∧ Compound.matchesAt t i k = true

namespace Chain

/-! ## The step

  From the parent of an element to the element itself.  The text written so far grows by one
  place. -/

/-- The joint behind places in a row is found by going through the first ones and then the
    others. -/
theorem Joint.after_append (j : Joint) (left right : List (Option Segment)) :
    j.after (left ++ right) = (j.after left).after right := by
  induction left generalizing j with
  | nil => rfl
  | cons x left ih =>
    cases x with
    | none => exact ih j.skip
    | some s => exact ih .adjacent

/-- What is written for some places, and behind them for the others. -/
theorem renderFrom_append (j : Joint) (left right : List (Option Segment)) :
    renderFrom j (left ++ right) = renderFrom j left ++ renderFrom (j.after left) right := by
  induction left generalizing j with
  | nil => exact String.empty_append.symm
  | cons x left ih =>
    cases x with
    | none => exact ih j.skip
    | some s =>
      rw [List.cons_append, renderFrom, renderFrom, ih, Joint.after, String.append_assoc,
        String.append_assoc, String.append_assoc]

/-- What the joint behind some parts says of their matches, on the way down to `a`: there are no
    parts yet, they match `a`, or they match an element above it.  This is the invariant of the run;
    the three cases are those of the joint. -/
def Joint.Reaches (t : Tree) (a : NodeId) (x : Complex) : Joint → Prop
  | start => x = []
  | adjacent => x.matchesAt t a = true
  | gap => ∃ b, t.ElementAbove b a ∧ x.matchesAt t b = true

/-- A compound at the end of the parts, which holds at the next element. -/
theorem Joint.Reaches.link {t : Tree} {a p : NodeId} {j : Joint} {x : Complex} {k : Compound}
    (ht : t.Reachable) (ha : t.WayUpEnds a) (h : j.Reaches t p x)
    (hp : j = .start ∨ t.parentElement? a = some p) (hk : k.matchesAt t a = true) :
    (x ++ j.relink [⟨none, k⟩]).matchesAt t a = true := by
  cases j with
  | start => exact (Complex.matchesAt_concat ht ha).2 ⟨hk, Or.inl h⟩
  | adjacent =>
    have hp := hp.resolve_left (by decide)
    exact (Complex.matchesAt_concat (p := ⟨some .child, k⟩) ht ha).2 ⟨hk, Or.inr ⟨p, hp, h⟩⟩
  | gap =>
    obtain ⟨b, hb, hm⟩ := h
    have hba := hb.trans (.parent (hp.resolve_left (by decide)))
    exact (Complex.matchesAt_concat (p := ⟨some .descendant, k⟩) ht ha).2
      ⟨hk, Or.inr ⟨b, hba, hm⟩⟩

/-- **One place further down.**  A segment there has to hold at the element that is reached.  An
    empty place only widens the joint, and the match that was right above is now somewhere above. -/
theorem Joint.Reaches.step {t : Tree} {a p : NodeId} {j : Joint} {x : Complex}
    {slot : Option Segment} (ht : t.Reachable) (ha : t.WayUpEnds a) (h : j.Reaches t p x)
    (hp : j = .start ∨ t.parentElement? a = some p)
    (hslot : ∀ s, slot = some s → s.HoldsAt t a) :
    (j.after [slot]).Reaches t a (x ++ partsFrom j [slot]) := by
  cases slot with
  | none =>
    show j.skip.Reaches t a (x ++ [])
    rw [List.append_nil]
    cases j with
    | start => exact h
    | adjacent => exact ⟨p, .parent (hp.resolve_left (by decide)), h⟩
    | gap =>
      obtain ⟨b, hb, hm⟩ := h
      exact ⟨b, hb.trans (.parent (hp.resolve_left (by decide))), hm⟩
  | some s =>
    obtain ⟨k, hparse, hk⟩ := hslot s rfl
    show Complex.matchesAt t a (x ++ (j.relink s.reading ++ [])) = true
    rw [List.append_nil, Segment.reading_eq hparse]
    exact h.link ht ha hp hk

/-! ## The last segment

  A match of a chain is a match of its last part at the element itself, whatever the other parts
  do. -/

section Last

variable {c : Chain} {l : Nat} {s : Segment} {left right : List (Option Segment)}

/-- A chain whose last place is filled ends there. -/
theorem endsAt_of_slots (h : c.slots = left ++ [some s]) :
    c.EndsAt left.length ∧ c.get? left.length = some s := by
  have hs : c.get? left.length = some s := by
    rw [get?_eq_some_iff, h, List.getElem?_append_right (Nat.le_refl _), Nat.sub_self]
    rfl
  refine ⟨⟨⟨s, hs⟩, fun j hj => ?_⟩, hs⟩
  have hlen : c.slots.length ≤ j := by
    rw [h, List.length_append, List.length_singleton]
    exact hj
  rw [get?, List.getElem?_eq_none hlen]
  rfl

/-- **The compound of the last segment holds wherever the chain matches.** -/
theorem EndsAt.compound_matchesAt {t : Tree} {i : NodeId} {k : Compound} (h : c.EndsAt l)
    (hs : c.get? l = some s) (hparse : Selector.parse s = .ok [[⟨none, k⟩]]) (ht : t.Reachable)
    (hi : t.WayUpEnds i) (hm : c.parts.matchesAt t i = true) : Compound.matchesAt t i k = true := by
  obtain ⟨left, right, hslots, -, -, hright⟩ := h.split hs
  -- the joint decides the link, and the compound is the same behind each
  obtain ⟨op, hop⟩ : ∃ op, (Joint.start.after left).relink s.reading = [⟨op, k⟩] := by
    rw [Segment.reading_eq hparse]
    cases Joint.start.after left <;> exact ⟨_, rfl⟩
  rw [parts, hslots, partsFrom_append, partsFrom, partsFrom_eq_nil hright, List.append_nil, hop]
    at hm
  exact ((Complex.matchesAt_concat ht hi).1 hm).1

/-- Empty places at the end write nothing, so the text ends with the last segment. -/
theorem exists_renderFrom_eq (hright : ∀ x ∈ right, x = none) (j : Joint) :
    ∃ front, renderFrom j (left ++ some s :: right) = front ++ s := by
  refine ⟨renderFrom j left ++ (j.after left).text, ?_⟩
  rw [renderFrom_append, renderFrom, renderFrom_eq_empty hright, String.append_empty,
    String.append_assoc]

/-- **The selector of a chain ends with its last segment.** -/
theorem EndsAt.exists_render_eq (h : c.EndsAt l) (hs : c.get? l = some s) :
    ∃ front, c.render = front ++ s := by
  obtain ⟨left, right, hslots, -, -, hright⟩ := h.split hs
  rw [render, hslots]
  exact exists_renderFrom_eq hright .start

/-- Empty places at the start write nothing. -/
theorem renderFrom_start_append (hleft : ∀ x ∈ left, x = none) :
    renderFrom .start (left ++ right) = renderFrom .start right := by
  induction left with
  | nil => rfl
  | cons x left ih =>
    obtain ⟨rfl, hlater⟩ := List.forall_mem_cons.1 hleft
    exact ih hlater

/-- A chain of one segment is written as this segment. -/
theorem render_eq_of_only (hs : c.get? l = some s) (honly : ∀ i, i ≠ l → c.get? i = none) :
    c.render = s := by
  have hl : c.EndsAt l := ⟨⟨s, hs⟩, fun j hj => honly j (Nat.ne_of_gt hj)⟩
  obtain ⟨left, right, hslots, rfl, -, hright⟩ := hl.split hs
  have hleft : ∀ x ∈ left, x = none := by
    intro x hx
    obtain ⟨i, hi⟩ := List.mem_iff_getElem?.1 hx
    have hlt : i < left.length := (List.getElem?_eq_some_iff.1 hi).1
    have hnone := honly i (Nat.ne_of_lt hlt)
    rw [get?, hslots, List.getElem?_append_left hlt, hi] at hnone
    exact hnone
  rw [render, hslots, renderFrom_start_append hleft, renderFrom, renderFrom_eq_empty hright,
    String.append_empty]
  exact String.empty_append

end Last

end Chain

/-! ## The chain of a level

  The program builds the chain from elements and their tokens.  Here it is the list of the segments
  of a lineage. -/

namespace Host

variable {E ε : Type} [DecidableEq E] {h : Host E ε} {o : Options} {e : E} {kinds : List Kind}

/-- The segment of an element on a level. -/
def levelSegment? (h : Host E ε) (o : Options) (kinds : List Kind) (e : E) : Option Segment :=
  h.segment? o kinds e (h.tokens o e)

/-- The segments of a lineage on a level, from the top down. -/
def levelChain (h : Host E ε) (o : Options) (kinds : List Kind) (e : E) : Chain :=
  ⟨(h.lineage e).reverse.map (h.levelSegment? o kinds)⟩

/-- A level has a chain where its first place is not empty. -/
theorem chainAt?_eq_levelChain (hhead : (h.levelChain o kinds e).slots.head? ≠ some none) :
    h.chainAt? o (h.tokenLineage o e) kinds = some (h.levelChain o kinds e) := by
  have hslots : (h.tokenLineage o e).map (fun p => h.segment? o kinds p.1 p.2) =
      (h.levelChain o kinds e).slots := by
    rw [tokenLineage, List.map_map]
    rfl
  rw [chainAt?_eq_ite, hslots, if_neg hhead]

/-- **A chain that resolves is the chain of a level.** -/
theorem exists_levelChain_of_uniqueChain? {c : Chain} (hc : h.uniqueChain? o e = some c) :
    ∃ kinds ∈ o.levels, c = h.levelChain o kinds e := by
  obtain ⟨kinds, hkinds, rfl⟩ := exists_level_of_uniqueChain? hc
  refine ⟨kinds, hkinds, ?_⟩
  rw [tokenLineage, List.map_map]
  rfl

end Host

/-! ## Chains that hold along a lineage

  What the segments of a level have in common with those of a pruned chain, and with chains put
  together from several. -/

/-- The chain has a place for each element of the lineage, from the top down, and a segment in it
    holds at this element.  Empty places are allowed anywhere, so a pruned chain holds along the
    lineage like the whole one. -/
structure Chain.HoldsAlong (c : Chain) (d : Document) (e : NodeId) : Prop where
  length_eq : c.length = (d.host.lineage e).length
  holdsAt : ∀ i a s, (d.host.lineage e).reverse[i]? = some a → c.get? i = some s →
    s.HoldsAt d.tree a

namespace Document

variable {d : Document} {o : Options} {a e p : NodeId} {kinds : List Kind} {s : Segment}

/-- The lineage of an element is the element and then the lineage of its parent. -/
theorem lineage_of_parentElement? (ht : d.tree.Reachable) (hw : d.tree.WayUpEnds e)
    (hp : d.tree.parentElement? e = some p) : d.host.lineage e = e :: d.host.lineage p := by
  rw [Tree.lineage_eq, Tree.lineage_eq, ht.ancestors_of_parentElement? hw hp]

end Document

namespace Chain.HoldsAlong

variable {d : Document} {c c' : Chain} {e p : NodeId} {s : Segment} {x : Option Segment}
  {left : List (Option Segment)}

/-- A chain with fewer segments holds along the lineage, too. -/
theorem of_get? (h : c.HoldsAlong d e) (hlen : c'.length = c.length)
    (hget : ∀ i s, c'.get? i = some s → c.get? i = some s) : c'.HoldsAlong d e :=
  ⟨hlen.trans h.length_eq, fun i a s ha hs => h.holdsAt i a s ha (hget i s hs)⟩

/-- There is a last place: every lineage has its own element. -/
theorem exists_slots (h : c.HoldsAlong d e) : ∃ left x, c.slots = left ++ [x] := by
  have hlen : c.slots.length = _ := h.length_eq
  have hne : c.slots ≠ [] := by
    intro hnil
    rw [hnil, Tree.lineage_eq] at hlen
    cases hlen
  exact ⟨_, _, (List.dropLast_append_getLast hne).symm⟩

/-- The last place is that of the element itself. -/
theorem last (h : c.HoldsAlong d e) (hslots : c.slots = left ++ [x]) (hx : x = some s) :
    s.HoldsAt d.tree e := by
  have hlen : c.slots.length = _ := h.length_eq
  rw [hslots, Tree.lineage_eq, List.length_append, List.length_cons] at hlen
  have hleft : left.length = (d.tree.ancestors e).length := Nat.succ.inj hlen
  refine h.holdsAt left.length e s ?_ ?_
  · rw [Tree.lineage_eq, List.reverse_cons, hleft, ← List.length_reverse]
    exact List.getElem?_concat_length
  · rw [get?_eq_some_iff, hslots, hx]
    exact List.getElem?_concat_length

/-- At the top there is no place before the last one. -/
theorem eq_nil_of_top (h : c.HoldsAlong d e) (hslots : c.slots = left ++ [x])
    (hp : d.tree.parentElement? e = none) : left = [] := by
  have hlen : c.slots.length = _ := h.length_eq
  rw [hslots, Tree.lineage_eq, Tree.ancestors_of_parentElement?_none hp, List.length_append] at hlen
  exact List.length_eq_zero_iff.1 (Nat.succ.inj hlen)

/-- The places before the last one hold along the lineage of the parent. -/
theorem above (h : c.HoldsAlong d e) (ht : d.tree.Reachable) (hw : d.tree.WayUpEnds e)
    (hslots : c.slots = left ++ [x]) (hp : d.tree.parentElement? e = some p) :
    HoldsAlong ⟨left⟩ d p := by
  have hlen : c.slots.length = _ := h.length_eq
  have hlineage := Document.lineage_of_parentElement? ht hw hp
  rw [hslots, hlineage, List.length_append, List.length_cons] at hlen
  have hleft : left.length = (d.host.lineage p).length := Nat.succ.inj hlen
  refine ⟨hleft, fun i a s ha hs => h.holdsAt i a s ?_ ?_⟩
  · rw [hlineage, List.reverse_cons]
    exact List.getElem?_append_left (List.getElem?_eq_some_iff.1 ha).1 ▸ ha
  · rw [get?_eq_some_iff] at hs ⊢
    rw [hslots]
    exact List.getElem?_append_left (List.getElem?_eq_some_iff.1 hs).1 ▸ hs

/-! ## The run

  From the top of the lineage down, place by place. -/

section Run

variable (h : c.HoldsAlong d e) (ht : d.tree.Reachable) (hw : d.tree.WayUpEnds e)
include h ht hw

/-- **All the way down a lineage**, up to the last place.  What is reached there is the parent of
    the element, unless nothing has been written yet. -/
theorem reaches_above (hslots : c.slots = left ++ [x]) :
    ∃ p, (Joint.start.after left).Reaches d.tree p (partsFrom .start left) ∧
      (Joint.start.after left = .start ∨ d.tree.parentElement? e = some p) := by
  -- on the depth, which grows with every place
  induction hd : d.tree.elementDepth e using Nat.strongRecOn generalizing c e left x with
  | _ n ih =>
    subst hd
    cases hp : d.tree.parentElement? e with
    | none =>
      obtain rfl := h.eq_nil_of_top hslots hp
      exact ⟨e, rfl, Or.inl rfl⟩
    | some p =>
      have hwp : d.tree.WayUpEnds p := hw.of_elementAbove (.parent hp)
      have hleft := h.above ht hw hslots hp
      obtain ⟨left', x', hslots'⟩ := hleft.exists_slots
      have hstep : left = left' ++ [x'] := hslots'
      obtain ⟨p', hreaches, hparent⟩ :=
        ih _ (ht.elementDepth_lt hw (.parent hp)) hleft hwp hslots' rfl
      refine ⟨p, ?_, Or.inr rfl⟩
      rw [hstep, Joint.after_append, partsFrom_append]
      exact hreaches.step ht hwp hparent fun s hs => hleft.last hslots' hs

/-- **All the way down**, the last place included. -/
theorem reaches : (Joint.start.after c.slots).Reaches d.tree e c.parts := by
  obtain ⟨left, x, hslots⟩ := h.exists_slots
  obtain ⟨p, hreaches, hparent⟩ := h.reaches_above ht hw hslots
  rw [parts, hslots, Joint.after_append, partsFrom_append]
  exact hreaches.step ht hw hparent fun s hs => h.last hslots hs

/-- **A chain that has a segment for its element matches it.** -/
theorem matchesAt (hleaf : c.leaf? = some s) : c.parts.matchesAt d.tree e = true := by
  have hreaches := h.reaches ht hw
  obtain ⟨left, hslots⟩ := leaf?_eq_some_iff.1 hleaf
  have hafter : Joint.start.after c.slots = .adjacent := by
    rw [hslots, Joint.after_append]
    rfl
  rw [hafter] at hreaches
  exact hreaches

end Run

/-- Its segments are compounds. -/
theorem ofCompounds (h : c.HoldsAlong d e) : c.OfCompounds := by
  intro i s hs
  have hlen : i < (d.host.lineage e).reverse.length := by
    rw [List.length_reverse, ← h.length_eq]
    exact lt_length_of_get? hs
  obtain ⟨k, hparse, -⟩ := h.holdsAt i _ s (List.getElem?_eq_getElem hlen) hs
  exact ⟨_, hparse⟩

/-- **A chain that finds its element has a segment for it.**  Behind a gap it would match an element
    above, which would be found, too. -/
theorem exists_leaf (h : c.HoldsAlong d e) (ht : d.tree.Reachable) (ha : d.tree.Acyclic)
    (hu : d.host.isUnique e c.render = true) : ∃ s, c.leaf? = some s := by
  obtain ⟨left, x, hslots⟩ := h.exists_slots
  cases x with
  | some s => exact ⟨s, leaf?_eq_some_iff.2 ⟨left, hslots⟩⟩
  | none =>
    have he : e ∈ d.elements := Document.mem_elements_of_isUnique hu
    have hr : d.host.resolvesTo [e] c.render = true := hu
    have hne := Host.exists_get?_of_resolvesTo hr
    rw [Document.resolvesTo_render_iff ht ha h.ofCompounds hne] at hr
    have hreaches := h.reaches ht (ha.wayUpEnds e)
    -- the chain ends with an empty place, so what it reaches is some element above
    have hafter : Joint.start.after c.slots = (Joint.start.after left).skip := by
      rw [hslots, Joint.after_append]
      rfl
    rw [hafter] at hreaches
    cases hj : Joint.start.after left with
    | start =>
      rw [hj] at hreaches
      have hnil : c.parts = [] := hreaches
      have hm := ((hr e).2 (List.mem_singleton_self e)).2
      rw [hnil] at hm
      cases hm
    | _ =>
      rw [hj] at hreaches
      obtain ⟨b, hb, hm⟩ := hreaches
      have hattached := ht.mem_descendants_of_elementAbove (ha Tree.root) he hb
      obtain rfl : b = e := List.mem_singleton.1 ((hr b).1 ⟨hattached, hm⟩)
      exact absurd hb.above (ha b)

end Chain.HoldsAlong

/-! ## The segments of a level

  Each segment was chosen because it finds its element among the siblings.  If it is one compound,
  this compound holds at the element. -/

namespace Document

variable {d : Document} {o : Options} {a e p : NodeId} {kinds : List Kind} {s : Segment}

/-- The last place is that of the element itself. -/
theorem levelChain_slots (d : Document) (o : Options) (kinds : List Kind) (e : NodeId) :
    (d.host.levelChain o kinds e).slots =
      (d.tree.ancestors e).reverse.map (d.host.levelSegment? o kinds) ++
        [d.host.levelSegment? o kinds e] := by
  rw [Host.levelChain, Tree.lineage_eq, List.reverse_cons, List.map_append, List.map_singleton]

/-- The last segment of a level is that of the element itself. -/
theorem leaf?_levelChain (d : Document) (o : Options) (kinds : List Kind) (e : NodeId) :
    (d.host.levelChain o kinds e).leaf? = d.host.levelSegment? o kinds e := by
  rw [Chain.leaf?_eq, levelChain_slots, List.getLast?_concat]
  rfl

/-- **Where the segments of a level hold at their elements, its chain holds along the lineage.** -/
theorem holdsAlong_levelChain
    (hf : ∀ a ∈ d.host.lineage e, ∀ s, d.host.levelSegment? o kinds a = some s →
      s.HoldsAt d.tree a) : (d.host.levelChain o kinds e).HoldsAlong d e := by
  refine ⟨by rw [Host.levelChain, Chain.length, List.length_map, List.length_reverse], ?_⟩
  intro i a s ha hs
  rw [Chain.get?_eq_some_iff, Host.levelChain, List.getElem?_map, ha, Option.map_some,
    Option.some_inj] at hs
  exact hf a (List.mem_reverse.1 (List.mem_iff_getElem?.2 ⟨i, ha⟩)) s hs

/-- A segment that finds its element among the siblings holds at it, if it is one compound. -/
theorem holdsAt_of_levelSegment? (hs : d.host.levelSegment? o kinds a = some s)
    (hreads : ∀ x, Selector.parse s = .ok x → ∃ k, x = [[⟨none, k⟩]]) : s.HoldsAt d.tree a := by
  obtain ⟨-, hq⟩ := Host.isUniqueAmongSiblings_iff.1 (List.find?_some hs)
  obtain ⟨x, hx, hfilter⟩ := filterMatching_eq_ok_iff.1 hq
  obtain ⟨k, rfl⟩ := hreads x hx
  have hmem : a ∈ (d.childrenOf (d.host.parent a)).filter fun i =>
      Selector.matchesAt d.tree i [[⟨none, k⟩]] := by
    rw [← hfilter]
    exact List.mem_singleton_self a
  have hm := (List.mem_filter.1 hmem).2
  rw [Selector.matchesAt, List.any_cons, List.any_nil, Bool.or_false] at hm
  exact ⟨k, hx, hm⟩

/-- With plain names and no attributes in use, a segment of a level holds at its element. -/
theorem holdsAt_of_names (hplain : d.host.hasPlainNames a = true) (ho : o.attributes = [])
    (hkinds : kinds ∈ o.levels) (hs : d.host.levelSegment? o kinds a = some s) :
    s.HoldsAt d.tree a :=
  holdsAt_of_levelSegment? hs fun _ hx => Host.exists_compound_of_names hplain ho
    (List.mem_of_find?_eq_some hs) (Host.mem_kinds_of_mem_levels hkinds) hx

/-- So it does where the element is plain, attributes and all. -/
theorem holdsAt_of_isPlain (hplain : d.host.isPlain a = true) (hkinds : kinds ∈ o.levels)
    (hs : d.host.levelSegment? o kinds a = some s) : s.HoldsAt d.tree a := by
  refine holdsAt_of_levelSegment? hs fun x hx => ?_
  obtain ⟨k, rfl, -⟩ := (Host.isWorded_of_mem_candidates hplain
    (Host.mem_kinds_of_mem_levels hkinds) (List.mem_of_find?_eq_some hs)).parse hx
  exact ⟨k, rfl⟩

section Level

variable (ht : d.tree.Reachable) (ha : d.tree.Acyclic)
  (hplain : ∀ a ∈ d.elements, d.host.hasPlainNames a = true) (ho : o.attributes = [])
  (he : e ∈ d.elements) (hkinds : kinds ∈ o.levels)
include ht ha hplain ho he hkinds

/-- All elements of a lineage are attached, so the condition on attached elements reaches each of
    them. -/
theorem holdsAlong_levelChain_of_names : (d.host.levelChain o kinds e).HoldsAlong d e := by
  refine holdsAlong_levelChain fun a hmem s hs => ?_
  have hattached := mem_elements_of_mem_lineage ht (ha Tree.root) he hmem
  exact holdsAt_of_names (hplain a hattached) ho hkinds hs

/-- The segments of a level are compounds. -/
theorem ofCompounds_levelChain : (d.host.levelChain o kinds e).OfCompounds :=
  (holdsAlong_levelChain_of_names ht ha hplain ho he hkinds).ofCompounds

/-- **The chain of a level matches its element**, where the element has a segment. -/
theorem matchesAt_levelChain (hs : d.host.levelSegment? o kinds e = some s) :
    (d.host.levelChain o kinds e).parts.matchesAt d.tree e = true :=
  (holdsAlong_levelChain_of_names ht ha hplain ho he hkinds).matchesAt ht (ha.wayUpEnds e)
    ((leaf?_levelChain d o kinds e).trans hs)

end Level

/-- **In a plain document a chain that finds its element holds along the lineage.**  The element is
    attached, since it is found, and so are those above it. -/
theorem holdsAlong_of_uniqueChain? (ht : d.tree.Reachable) (ha : d.tree.Acyclic)
    (hplain : d.isPlain = true) {c : Chain} (hc : d.host.uniqueChain? o e = some c) :
    c.HoldsAlong d e := by
  have he : e ∈ d.elements := mem_elements_of_isUnique (Host.isUnique_of_uniqueChain? hc)
  obtain ⟨kinds, hkinds, rfl⟩ := Host.exists_levelChain_of_uniqueChain? hc
  refine holdsAlong_levelChain fun a hmem s hs => ?_
  have hattached := mem_elements_of_mem_lineage ht (ha Tree.root) he hmem
  exact holdsAt_of_isPlain (isPlain_of_mem hplain hattached) hkinds hs

/-! ## Answers

  What is left of a chain in the answer. -/

/-- Pruning keeps the last segment. -/
theorem Finds.get?_prune {targets : List NodeId} {c : Chain} {l : Nat} (ht : d.tree.Reachable)
    (ha : d.tree.Acyclic) (hf : d.Finds targets l c) (htargets : targets ≠ [])
    (hs : c.get? l = some s) :
    (d.host.prune targets c).EndsAt l ∧ (d.host.prune targets c).get? l = some s := by
  have hrun := Host.prunesTo_prune d.host targets c
  obtain ⟨hlast, -⟩ := hf.prunesTo ht ha htargets hrun
  obtain ⟨s', hs'⟩ := hlast.endsAt.present
  have hsame := hrun.thins.get?_eq_some hs'
  rw [hs, Option.some_inj] at hsame
  exact ⟨hlast.endsAt, hsame ▸ hs'⟩

/-- **An answer ends with the segment of its element** on some level.  The chain that was found has
    a segment for the element, pruning keeps it as the last one, and the text ends with it. -/
theorem exists_segment_of_shortestSelector? (ht : d.tree.Reachable) (ha : d.tree.Acyclic)
    (hplain : ∀ a ∈ d.elements, d.host.hasPlainNames a = true) (ho : o.attributes = [])
    {answer : String} (hanswer : d.host.shortestSelector? o e = some answer) :
    ∃ kinds ∈ o.levels, ∃ s, d.host.levelSegment? o kinds e = some s ∧
      ∃ front, answer = front ++ s := by
  rw [Host.shortestSelector?_eq_map] at hanswer
  obtain ⟨c, hc, rfl⟩ := Option.map_eq_some_iff.1 hanswer
  have hu := Host.isUnique_of_uniqueChain? hc
  have he : e ∈ d.elements := mem_elements_of_isUnique hu
  obtain ⟨kinds, hkinds, rfl⟩ := Host.exists_levelChain_of_uniqueChain? hc
  have hholds := holdsAlong_levelChain_of_names ht ha hplain ho he hkinds
  obtain ⟨s, hs⟩ := hholds.exists_leaf ht ha hu
  rw [leaf?_levelChain] at hs
  have hslots := levelChain_slots d o kinds e
  rw [hs] at hslots
  obtain ⟨hends, hget⟩ := Chain.endsAt_of_slots hslots
  have hf : d.Finds [e] _ (d.host.levelChain o kinds e) :=
    ⟨hholds.ofCompounds, hends, hu⟩
  -- pruning keeps the last segment, which is that of the element
  obtain ⟨hends', hget'⟩ := hf.get?_prune ht ha (List.cons_ne_nil _ _) hget
  exact ⟨kinds, hkinds, s, hs, hends'.exists_render_eq hget'⟩

end Document

end Pinpoint
