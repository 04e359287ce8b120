/-
  In a document, pruning leaves no segment that could still be left out.

  Nothing of the kind holds of every host: a segment kept early might become superfluous after later
  ones have gone.  It holds here because of what segments mean.

  1. **Leaving out a segment that is not the last one keeps every match** (`matchesAt_without`):
     its right neighbour is then looked for anywhere below its left one.
  2. **The last segment is never left out** (`not_resolvesTo_without_last`): without it every match
     would move to an element above, which would be a target, too, and so on without an end.
  3. So between the time a segment was tried and the end, the matches without it can only have
     grown; there were too many then, and there are too many at the end.
-/
import Mathlib.Data.Nat.Find
import Pinpoint.Proofs.Search.DocumentHost
import Pinpoint.Proofs.Search.Single
import Pinpoint.Proofs.Selector.Matching

namespace Pinpoint

/-! ## The last segment

  It is the one that names the element itself; all others say what is above. -/

namespace Chain

variable {c : Chain} {i j l : Nat} {s : Segment}

/-- The last segment stands in place `l`. -/
structure EndsAt (c : Chain) (l : Nat) : Prop where
  present : ∃ s, c.get? l = some s
  later : ∀ j, l < j → c.get? j = none

/-- Where there is no segment there is none to leave out. -/
theorem without_eq_self (h : c.get? i = none) : c.without i = c := by
  have hslots : c.slots.set i none = c.slots := by
    apply List.ext_getElem?
    intro j
    rw [List.getElem?_set]
    split
    · rename_i hij
      subst hij
      rw [get?, Option.join_eq_none_iff] at h
      split
      · rename_i hlt
        rcases h with h | h
        · rw [List.getElem?_eq_none_iff] at h
          omega
        · exact h.symm
      · rename_i hlt
        exact (List.getElem?_eq_none (Nat.le_of_not_lt hlt)).symm
    · rfl
  rw [without, set, hslots]

/-- Two segments can be left out in either order. -/
theorem without_comm (c : Chain) (i j : Nat) :
    (c.without i).without j = (c.without j).without i := by
  by_cases hij : i = j
  · rw [hij]
  · simp only [without, set]
    rw [List.set_comm _ _ hij]

/-- The places around a segment.  Leaving the segment out is putting an empty place between the same
    two rows. -/
theorem split_at (h : c.get? i = some s) :
    ∃ left right, c.slots = left ++ some s :: right ∧ left.length = i ∧
      (c.without i).slots = left ++ none :: right := by
  rw [get?_eq_some_iff] at h
  obtain ⟨hlt, heq⟩ := List.getElem?_eq_some_iff.1 h
  refine ⟨c.slots.take i, c.slots.drop (i + 1), ?_, List.length_take_of_le (Nat.le_of_lt hlt), ?_⟩
  · rw [← heq, List.getElem_cons_drop, List.take_append_drop]
  · exact List.set_eq_take_append_cons_drop.trans (if_pos hlt)

/-- The places to the right of a cut. -/
theorem get?_of_split {left right : List (Option Segment)} {x : Option Segment}
    (h : c.slots = left ++ x :: right) (k : Nat) :
    c.get? (left.length + 1 + k) = (right[k]?).join := by
  rw [get?, h, List.getElem?_append_right (by omega)]
  have hk : left.length + 1 + k - left.length = k + 1 := by omega
  rw [hk, List.getElem?_cons_succ]

/-- The places around the last segment: behind it all are empty. -/
theorem EndsAt.split (h : c.EndsAt l) (hs : c.get? l = some s) :
    ∃ left right, c.slots = left ++ some s :: right ∧ left.length = l ∧
      (c.without l).slots = left ++ none :: right ∧ ∀ x ∈ right, x = none := by
  obtain ⟨left, right, hslots, rfl, hwithout⟩ := split_at hs
  refine ⟨left, right, hslots, rfl, hwithout, fun x hx => ?_⟩
  obtain ⟨k, hk⟩ := List.mem_iff_getElem?.1 hx
  have hlater := h.later (left.length + 1 + k) (by omega)
  rw [get?_of_split hslots, hk] at hlater
  exact hlater

/-- Leaving out another segment does not move the last one. -/
theorem EndsAt.without (h : c.EndsAt l) (hil : i ≠ l) : (c.without i).EndsAt l := by
  refine ⟨?_, fun j hj => (c.thins_without i).get?_eq_none (h.later j hj)⟩
  rw [c.get?_without_of_ne hil.symm]
  exact h.present

/-- A thinner chain of compounds is one of compounds. -/
theorem OfCompounds.thins (h : c.OfCompounds) {c' : Chain} (hc' : c.Thins c') :
    c'.OfCompounds := fun i s hs => h i s (hc'.get?_eq_some hs)

/-- A chain that has a segment has a last one. -/
theorem exists_endsAt (h : ∃ i s, c.get? i = some s) : ∃ l, c.EndsAt l := by
  obtain ⟨i, s, hs⟩ := h
  have hi : i ≤ c.length := Nat.le_of_lt (lt_length_of_get? hs)
  have hsome : (c.get? i).isSome = true := by rw [hs]; rfl
  refine ⟨Nat.findGreatest (fun i => (c.get? i).isSome = true) c.length, ?_, fun j hj => ?_⟩
  · exact Option.isSome_iff_exists.1
      (Nat.findGreatest_spec (P := fun i => (c.get? i).isSome = true) hi hsome)
  · cases hs : c.get? j with
    | none => rfl
    | some s =>
      have hle := Nat.le_of_lt (lt_length_of_get? hs)
      exact absurd (by rw [hs]; rfl) (Nat.findGreatest_is_greatest hj hle)

end Chain

/-! ## Matches of a chain

  What a chain without one of its segments matches, in terms of what the whole chain does. -/

namespace Chain

variable {c : Chain} {i j l : Nat} {s : Segment} {left right : List (Option Segment)}

/-- Once something has been written, the start does not come back. -/
theorem after_ne_start (slots : List (Option Segment)) :
    ∀ j : Joint, j ≠ .start → j.after slots ≠ .start := by
  induction slots with
  | nil => exact fun _ hj => hj
  | cons x slots ih =>
    intro j hj
    cases x with
    | none => exact ih _ (skip_ne_start hj)
    | some s => exact ih _ (by simp)

/-- Nothing has been written where a selector is still to start. -/
theorem partsFrom_of_after_start (h : Joint.start.after left = .start) :
    partsFrom .start left = [] := by
  induction left with
  | nil => rfl
  | cons x left ih =>
    cases x with
    | none => exact ih h
    | some s => exact absurd h (after_ne_start left .adjacent (by simp))

/-- Empty places add no parts. -/
theorem partsFrom_eq_nil (h : ∀ x ∈ right, x = none) (j : Joint) : partsFrom j right = [] := by
  induction right generalizing j with
  | nil => rfl
  | cons x right ih =>
    have hx : x = none := h x List.mem_cons_self
    subst hx
    exact ih (fun y hy => h y (List.mem_cons_of_mem _ hy)) j.skip

/-- The first segment of some places gives the same compound behind every joint; the joint decides
    its link, and what follows does not depend on it. -/
theorem exists_partsFrom_eq (hk : ∀ s, some s ∈ right → ∃ k, s.reading = [⟨none, k⟩])
    (hs : ∃ s, some s ∈ right) :
    ∃ k later, (∃ op, partsFrom .adjacent right = ⟨op, k⟩ :: later) ∧
      partsFrom .gap right = ⟨some .descendant, k⟩ :: later ∧
      partsFrom .start right = ⟨none, k⟩ :: later := by
  induction right with
  | nil =>
    obtain ⟨s, hs⟩ := hs
    cases hs
  | cons x right ih =>
    cases x with
    | none =>
      obtain ⟨k, later, -, hgap, hstart⟩ :=
        ih (fun s hs => hk s (List.mem_cons_of_mem _ hs)) (by simpa using hs)
      exact ⟨k, later, ⟨_, hgap⟩, hgap, hstart⟩
    | some s =>
      obtain ⟨k, hread⟩ := hk s List.mem_cons_self
      refine ⟨k, partsFrom .adjacent right, ⟨some .child, ?_⟩, ?_, ?_⟩ <;>
        rw [partsFrom, hread] <;> rfl

section Matches

variable {t : Tree} {e : NodeId} (ht : t.Reachable) (ha : t.Acyclic)
include ht ha

/-- **Leaving out a segment that is not the last one keeps every match.**  Its right neighbour was
    right below or somewhere below it, and is then somewhere below the left one, or the first
    segment of all. -/
theorem matchesAt_without (hc : c.OfCompounds) (hl : c.EndsAt l) (hil : i ≠ l)
    (h : c.parts.matchesAt t e = true) : (c.without i).parts.matchesAt t e = true := by
  cases hs : c.get? i with
  | none =>
    rw [without_eq_self hs]
    exact h
  | some s =>
    obtain ⟨left, right, hslots, hlen, hwithout⟩ := split_at hs
    have hlt : i < l := by
      rcases Nat.lt_or_gt_of_ne hil with hlt | hgt
      · exact hlt
      · rw [hl.later i hgt] at hs
        cases hs
    have hright : ∃ s', some s' ∈ right := by
      obtain ⟨s', hs'⟩ := hl.present
      have hk : left.length + 1 + (l - i - 1) = l := by omega
      rw [← hk, get?_of_split hslots, Option.join_eq_some_iff] at hs'
      exact ⟨s', List.mem_of_getElem? hs'⟩
    have hmem : ∀ s', some s' ∈ right → some s' ∈ c.slots := by
      intro s' hs'
      rw [hslots]
      exact List.mem_append_right _ (List.mem_cons_of_mem _ hs')
    obtain ⟨k, later, ⟨op, hadj⟩, hgap, hstart⟩ :=
      exists_partsFrom_eq (fun s' hs' => hc.reading (hmem s' hs')) hright
    obtain ⟨q, hq⟩ := hc.relink (Joint.start.after left) (by rw [hslots]; simp : some s ∈ c.slots)
    rw [parts, hslots, partsFrom_append, partsFrom, hq, hadj, List.singleton_append] at h
    rw [parts, hwithout, partsFrom_append, partsFrom]
    -- the right neighbour becomes the first part, or it becomes a descendant of what is on the left
    by_cases hj : Joint.start.after left = .start
    · rw [hj, Joint.skip, hstart]
      exact Complex.matchesAt_of_skip (p := ⟨op, k⟩) ht ha rfl
        (Or.inl (partsFrom_of_after_start hj)) h
    · rw [skip_of_ne_start hj, hgap]
      exact Complex.matchesAt_of_skip (p := ⟨op, k⟩) ht ha rfl (Or.inr rfl) h

/-- **Leaving out the last segment moves every match to an element above**, if a segment is
    left. -/
theorem matchesAt_without_last (hc : c.OfCompounds) (hl : c.EndsAt l)
    (hne : (c.without l).parts ≠ []) (h : c.parts.matchesAt t e = true) :
    ∃ a, t.ElementAbove a e ∧ (c.without l).parts.matchesAt t a = true := by
  obtain ⟨s, hs⟩ := hl.present
  obtain ⟨left, right, hslots, -, hwithout, hright⟩ := hl.split hs
  obtain ⟨q, hq⟩ := hc.relink (Joint.start.after left) (by rw [hslots]; simp : some s ∈ c.slots)
  rw [parts, hwithout, partsFrom_append, partsFrom, partsFrom_eq_nil hright, List.append_nil]
    at hne ⊢
  rw [parts, hslots, partsFrom_append, partsFrom, partsFrom_eq_nil hright, List.append_nil, hq] at h
  exact Complex.matchesAt_of_concat ht (ha.wayUpEnds e) hne h

end Matches

end Chain

/-! ## The run

  Pruning as a relation between chains, and what each of its steps keeps in a document. -/

/-- A chain that finds its targets has a segment. -/
theorem Host.exists_get?_of_resolvesTo {E ε : Type} [DecidableEq E] {h : Host E ε}
    {targets : List E} {c : Chain} (hr : h.resolvesTo targets c.render = true) :
    ∃ i s, c.get? i = some s :=
  Chain.exists_get?_of_isEmpty (isEmpty_eq_false_of_resolvesTo hr)

namespace Document

variable {d : Document} {targets : List NodeId} {c c' : Chain} {i l : Nat}

section Run

variable (ht : d.tree.Reachable) (ha : d.tree.Acyclic)
include ht ha

/-- **The last segment is needed.**  Without it, every target would have another one above: the
    chain without it still matches some element above the target, which would be found.  A target of
    least depth has none above it. -/
theorem not_resolvesTo_without_last (hc : c.OfCompounds) (hl : c.EndsAt l) (htargets : targets ≠ [])
    (hr : d.host.resolvesTo targets c.render = true) :
    d.host.resolvesTo targets (c.without l).render = false := by
  rw [Bool.eq_false_iff]
  intro hr'
  have hc' := hc.thins (c.thins_without l)
  rw [resolvesTo_render_iff ht ha hc (Host.exists_get?_of_resolvesTo hr)] at hr
  rw [resolvesTo_render_iff ht ha hc' (Host.exists_get?_of_resolvesTo hr')] at hr'
  have hparts : (c.without l).parts ≠ [] := by
    obtain ⟨e, he⟩ := List.exists_mem_of_ne_nil targets htargets
    intro hnil
    have hm := ((hr' e).2 he).2
    rw [hnil] at hm
    cases hm
  -- on the depth: a target of least depth would have another one above it
  have hnone : ∀ n e, d.tree.elementDepth e = n → e ∉ targets := by
    intro n
    induction n using Nat.strongRecOn with
    | _ n ih =>
      rintro e rfl he
      obtain ⟨hattached, hm⟩ := (hr e).2 he
      obtain ⟨a, habove, hm'⟩ := Chain.matchesAt_without_last ht ha hc hl hparts hm
      have hlt := ht.elementDepth_lt (ha.wayUpEnds e) habove
      have ha' := ht.mem_descendants_of_elementAbove (ha Tree.root) hattached habove
      exact ih _ hlt a rfl ((hr' a).1 ⟨ha', hm'⟩)
  obtain ⟨e, he⟩ := List.exists_mem_of_ne_nil targets htargets
  exact hnone _ e rfl he

/-- What every chain of a run has: compounds for segments, the last of them in its place, and the
    targets for matches. -/
structure Finds (d : Document) (targets : List NodeId) (l : Nat) (c : Chain) : Prop where
  compounds : c.OfCompounds
  endsAt : c.EndsAt l
  resolves : d.host.resolvesTo targets c.render = true

/-- **The step**: a segment left out is not the last one. -/
theorem Finds.without (hf : d.Finds targets l c) (htargets : targets ≠ [])
    (hr : d.host.resolvesTo targets (c.without i).render = true) :
    i ≠ l ∧ d.Finds targets l (c.without i) := by
  have hil : i ≠ l := by
    rintro rfl
    rw [not_resolvesTo_without_last ht ha hf.compounds hf.endsAt htargets hf.resolves] at hr
    cases hr
  exact ⟨hil, hf.compounds.thins (c.thins_without i), hf.endsAt.without hil, hr⟩

/-- **The run**: the last segment stays in its place, and the matches without one of the others only
    grow.  The second part compares the chains at both ends of the run, each without the same
    segment. -/
theorem Finds.prunesTo (hf : d.Finds targets l c) (htargets : targets ≠ [])
    (run : d.host.PrunesTo targets c c') :
    d.Finds targets l c' ∧ ∀ i, i ≠ l → ∀ e, (c.without i).parts.matchesAt d.tree e = true →
      (c'.without i).parts.matchesAt d.tree e = true := by
  induction run with
  | refl => exact ⟨hf, fun _ _ _ hm => hm⟩
  | @without c' _ j found ih =>
    obtain ⟨hf', hgrow⟩ := ih
    obtain ⟨hjl, hf''⟩ := hf'.without ht ha htargets found
    refine ⟨hf'', fun i hil e hm => ?_⟩
    rw [c'.without_comm]
    exact Chain.matchesAt_without ht ha (hf'.compounds.thins (c'.thins_without i))
      (hf'.endsAt.without hil) hjl (hgrow i hil e hm)

/-- **What pruning leaves is needed.**  A segment that was needed when it was tried is needed at the
    end: without it there were matches beyond the targets, and these have only become more. -/
theorem not_resolvesTo_without (hf : d.Finds targets l c) (htargets : targets ≠ []) {s : Segment}
    (hs : (d.host.prune targets c).get? i = some s) :
    d.host.resolvesTo targets ((d.host.prune targets c).without i).render = false := by
  obtain ⟨hlast, -⟩ := hf.prunesTo ht ha htargets (Host.prunesTo_prune d.host targets c)
  by_cases hil : i = l
  · subst hil
    exact not_resolvesTo_without_last ht ha hlast.compounds hlast.endsAt htargets hlast.resolves
  · obtain ⟨b, hcb, hb, hneed⟩ := Host.exists_needed_of_prune hs
    obtain ⟨hfb, -⟩ := hf.prunesTo ht ha htargets hcb
    obtain ⟨-, hgrow⟩ := hfb.prunesTo ht ha htargets hb
    rw [Bool.eq_false_iff] at hneed ⊢
    intro hr
    -- the targets match without the segment at the time it was tried, and nothing else does
    apply hneed
    have hbne : ∃ j s, (b.without i).get? j = some s := ⟨l, (hfb.endsAt.without hil).present⟩
    have hthins := (Host.prunesTo_prune d.host targets c).thins
    rw [resolvesTo_render_iff ht ha ((hf.compounds.thins hthins).thins (Chain.thins_without _ i))
      (Host.exists_get?_of_resolvesTo hr)] at hr
    have hbr := hfb.resolves
    rw [resolvesTo_render_iff ht ha hfb.compounds (Host.exists_get?_of_resolvesTo hbr)] at hbr
    rw [resolvesTo_render_iff ht ha (hfb.compounds.thins (b.thins_without i)) hbne]
    refine fun e => ⟨fun ⟨hel, hm⟩ => (hr e).1 ⟨hel, hgrow i hil e hm⟩, fun he => ?_⟩
    obtain ⟨hel, hm⟩ := (hbr e).2 he
    exact ⟨hel, Chain.matchesAt_without ht ha hfb.compounds hfb.endsAt hil hm⟩

end Run

/-- **Pruning leaves the last segment and nothing that could be left out**, so pruning again changes
    nothing.  The tree must not run in circles, for then an element could be above itself, and the
    last segment could go. -/
theorem minimize_leaves_needed (ht : d.tree.Reachable) (ha : d.tree.Acyclic) {m : Chain}
    (hc : c.OfCompounds) (hm : d.host.minimize targets c = some m) :
    (∀ l s, c.get? l = some s → (∀ j, l < j → c.get? j = none) → m.get? l = some s) ∧
    (∀ i s, m.get? i = some s → d.host.resolvesTo targets (m.without i).render = false) ∧
    d.host.minimize targets m = some m := by
  obtain ⟨htargets, hr, rfl⟩ := Host.minimize_eq_some_iff.1 hm
  -- a chain that finds something has a last segment
  obtain ⟨l, hl⟩ := Chain.exists_endsAt (Host.exists_get?_of_resolvesTo hr)
  have hneed : ∀ i s, (d.host.prune targets c).get? i = some s →
      d.host.resolvesTo targets ((d.host.prune targets c).without i).render = false :=
    fun i s hs => not_resolvesTo_without ht ha ⟨hc, hl, hr⟩ htargets hs
  refine ⟨fun l' s hs hlater => ?_, hneed, ?_⟩
  · obtain ⟨hlast, -⟩ := Finds.prunesTo ht ha ⟨hc, ⟨⟨s, hs⟩, hlater⟩, hr⟩ htargets
      (Host.prunesTo_prune d.host targets c)
    obtain ⟨s', hs'⟩ := hlast.endsAt.present
    have hthins := (Host.prunesTo_prune d.host targets c).thins
    rw [hthins.get?_eq_some hs', Option.some_inj] at hs
    rw [hs', hs]
  · refine Host.minimize_eq_some_iff.2 ⟨htargets, Host.resolvesTo_prune hr, ?_⟩
    exact (Host.prune_eq_self hneed).symm

/-- The marked item of the list does without the list, and then needs what is left. -/
theorem minimize_leaves_marked_item :
    Chain.OfCompounds ⟨[some "ul", some "li.on"]⟩ ∧
    Host.markedList.host.minimize [3] ⟨[some "ul", some "li.on"]⟩ = some ⟨[none, some "li.on"]⟩ ∧
    Host.markedList.host.minimize [3] ⟨[none, some "li.on"]⟩ = some ⟨[none, some "li.on"]⟩ := by
  have hc : Chain.OfCompounds ⟨[some "ul", some "li.on"]⟩ := by
    intro i s hs
    have hmem := Chain.exists_get?_iff.1 ⟨i, hs⟩
    simp only [List.mem_cons, Option.some.injEq, List.not_mem_nil, or_false] at hmem
    rcases hmem with rfl | rfl
    · exact ⟨⟨none, [.tag "ul"]⟩, by decide +kernel⟩
    · exact ⟨⟨none, [.tag "li", .className "on"]⟩, by decide +kernel⟩
  have hm : Host.markedList.host.minimize [3] ⟨[some "ul", some "li.on"]⟩
      = some ⟨[none, some "li.on"]⟩ := by decide +kernel
  exact ⟨hc, hm, (minimize_leaves_needed (Tree.reachable_ofSteps _)
    (Tree.acyclic_of_parent?_lt (by decide +kernel)) hc hm).2.2⟩

end Document

end Pinpoint
