/-
  What pruning a chain keeps.

  Nothing is asked of the host here: its answers may be anything, as long as the same question has
  the same answer.

  1. `Thins`: a chain with some of its segments left out and the rest where they were.
  2. **The step.**  Trying one place leaves the segment out exactly when it may be tried and the
     targets are found without it (`dropAt_cases`).
  3. **The run.**  Pruning takes segments out one at a time, and the targets stay found
     (`PrunesTo`, `prunesTo_prune`).
  4. The second sweep tries every segment, so what is left at the end was needed at the time it
     was tried (`exists_needed_of_prune`); whether it still is depends on the host.
  5. A chain that finds its targets is never pruned to nothing, because the empty text finds
     nothing.  So `minimize` fails only where it has to (`minimize_eq_some_iff`), and its answer is
     a thinner chain that finds the same targets.
-/
import Pinpoint.Document.Edit
import Pinpoint.Proofs.Search.Resolution
import Pinpoint.Search.DocumentHost
import Pinpoint.Search.Pruning

namespace Pinpoint

/-! ## Thinner chains

  Pruning a chain empties places and never removes one.  All that is said about the result in terms
  of segments and places follows from this relation. -/

namespace Chain

/-- Leaving a segment out keeps its place. -/
@[simp] theorem length_without (c : Chain) (i : Nat) : (c.without i).length = c.length := by
  simp [without, set, length]

/-- The place is empty afterwards, and every other place is as it was. -/
theorem get?_without (c : Chain) (i j : Nat) :
    (c.without i).get? j = if j = i then none else c.get? j := by
  simp only [get?, without, set, List.getElem?_set]
  by_cases hij : j = i
  · subst hij
    by_cases hj : j < c.slots.length <;> simp [hj]
  · rw [if_neg hij, if_neg (fun h => hij h.symm)]

/-- A segment stands in a place of the chain. -/
theorem lt_length_of_get? {c : Chain} {i : Nat} {s : Segment} (h : c.get? i = some s) :
    i < c.length := by
  rcases Nat.lt_or_ge i c.length with hi | hi
  · exact hi
  · rw [get?, List.getElem?_eq_none hi] at h
    cases h

/-- The place itself. -/
theorem get?_without_self (c : Chain) (i : Nat) : (c.without i).get? i = none := by
  rw [get?_without, if_pos rfl]

/-- Any other place. -/
theorem get?_without_of_ne (c : Chain) {i j : Nat} (h : j ≠ i) :
    (c.without i).get? j = c.get? j := by
  rw [get?_without, if_neg h]

/-- `c'` is `c` with some of its segments left out.  The places stay where they are, so the segments
    that are left have the same distances as before. -/
structure Thins (c c' : Chain) : Prop where
  length_eq : c'.length = c.length
  get? : ∀ i, c'.get? i = c.get? i ∨ c'.get? i = none

/-- A chain is a thinner version of itself. -/
theorem Thins.refl (c : Chain) : Thins c c := ⟨rfl, fun _ => Or.inl rfl⟩

/-- Leaving out some segments and then some more leaves out some segments. -/
theorem Thins.trans {a b c : Chain} (hab : Thins a b) (hbc : Thins b c) : Thins a c := by
  refine ⟨hbc.length_eq.trans hab.length_eq, fun i => ?_⟩
  rcases hbc.get? i with h | h
  · rw [h]; exact hab.get? i
  · exact Or.inr h

/-- Leaving out one segment is the smallest case. -/
theorem thins_without (c : Chain) (i : Nat) : Thins c (c.without i) := by
  refine ⟨length_without c i, fun j => ?_⟩
  rw [get?_without]
  split
  · exact Or.inr rfl
  · exact Or.inl rfl

/-- What is left in a place was there before. -/
theorem Thins.get?_eq_some {c c' : Chain} (h : Thins c c') {i : Nat} {s : Segment}
    (hs : c'.get? i = some s) : c.get? i = some s := by
  rcases h.get? i with hi | hi
  · rw [← hi]; exact hs
  · rw [hi] at hs; cases hs

/-- A place that was empty stays empty. -/
theorem Thins.get?_eq_none {c c' : Chain} (h : Thins c c') {i : Nat} (hi : c.get? i = none) :
    c'.get? i = none := by
  rcases h.get? i with h' | h'
  · rw [h', hi]
  · exact h'

/-- Empty places write nothing, since the joints are written with the segment behind them. -/
theorem renderFrom_eq_empty {slots : List (Option Segment)} (h : ∀ x ∈ slots, x = none)
    (j : Joint) : renderFrom j slots = "" := by
  induction slots generalizing j with
  | nil => rfl
  | cons x rest ih =>
    have hx : x = none := h x List.mem_cons_self
    subst hx
    exact ih (fun y hy => h y (List.mem_cons_of_mem _ hy)) j.skip

/-- A chain without segments is written as the empty text. -/
theorem render_of_isEmpty {c : Chain} (h : c.isEmpty = true) : c.render = "" :=
  renderFrom_eq_empty (fun x hx => Option.isNone_iff_eq_none.1 (List.all_eq_true.1 h x hx)) .start

end Chain

namespace Host

variable {E ε : Type} [DecidableEq E] {h : Host E ε} {targets : List E}

/-! ## The step

  A place is tried by rendering the chain without it and asking the host. -/

/-- **Trying one place**: the segment is left out and the targets are found without it, or the
    chain stays and every segment there that may be tried is needed. -/
theorem dropAt_cases (h : Host E ε) (targets : List E) (mayTry : Segment → Bool) (c : Chain)
    (i : Nat) :
    (h.dropAt targets mayTry c i = c.without i ∧
      h.resolvesTo targets (c.without i).render = true) ∨
    (h.dropAt targets mayTry c i = c ∧ ∀ s, c.get? i = some s → mayTry s = true →
      h.resolvesTo targets (c.without i).render = false) := by
  unfold dropAt
  cases hs : c.get? i with
  | none => exact Or.inr ⟨rfl, fun s h' => by cases h'⟩
  | some s =>
    dsimp only
    by_cases hd : (mayTry s && h.resolvesTo targets (c.without i).render) = true
    · rw [if_pos hd]
      exact Or.inl ⟨rfl, (Bool.and_eq_true_iff.1 hd).2⟩
    · rw [if_neg hd]
      refine Or.inr ⟨rfl, fun s' hs' hm => ?_⟩
      cases hs'
      rw [hm, Bool.true_and] at hd
      exact Bool.eq_false_iff.2 hd

/-! ## The run

  A sweep is a fold over the places.  The relation `PrunesTo` forgets the order in which places are
  tried, and keeps that each step was allowed. -/

/-- `c'` is left of `c` when segments are taken out one at a time and the targets are found after
    each time.  A step takes out whatever is in the place, so which segments may be tried is no part
    of the relation. -/
inductive PrunesTo (h : Host E ε) (targets : List E) : Chain → Chain → Prop
  | refl (c : Chain) : PrunesTo h targets c c
  | without {c c' : Chain} (run : PrunesTo h targets c c') (i : Nat)
      (found : h.resolvesTo targets (c'.without i).render = true) :
      PrunesTo h targets c (c'.without i)

/-- Two runs in a row are a run. -/
theorem PrunesTo.trans {a b c : Chain} (hab : h.PrunesTo targets a b)
    (hbc : h.PrunesTo targets b c) : h.PrunesTo targets a c := by
  induction hbc with
  | refl => exact hab
  | without _ i found ih => exact .without ih i found

/-- Trying a place is a run of one step or of none. -/
theorem prunesTo_dropAt (h : Host E ε) (targets : List E) (mayTry : Segment → Bool) (c : Chain)
    (i : Nat) :
    h.PrunesTo targets c (h.dropAt targets mayTry c i) := by
  rcases dropAt_cases h targets mayTry c i with ⟨heq, found⟩ | ⟨heq, -⟩
  · rw [heq]; exact .without (.refl c) i found
  · rw [heq]; exact .refl c

/-- Trying the places of a list in turn is a run. -/
theorem prunesTo_foldl (h : Host E ε) (targets : List E) (mayTry : Segment → Bool)
    (places : List Nat) (c : Chain) :
    h.PrunesTo targets c (places.foldl (h.dropAt targets mayTry) c) := by
  induction places generalizing c with
  | nil => exact .refl c
  | cons i places ih => exact (prunesTo_dropAt h targets mayTry c i).trans (ih _)

/-- **Pruning is such a run.** -/
theorem prunesTo_prune (h : Host E ε) (targets : List E) (c : Chain) :
    h.PrunesTo targets c (h.prune targets c) :=
  (prunesTo_foldl h targets _ _ c).trans (prunesTo_foldl h targets _ _ _)

/-- What a run leaves is a thinner chain. -/
theorem PrunesTo.thins {c c' : Chain} (run : h.PrunesTo targets c c') : c.Thins c' := by
  induction run with
  | refl => exact Chain.Thins.refl c
  | @without c' _ i _ ih => exact ih.trans (c'.thins_without i)

/-- No target is lost and no other element found.  The last step was only taken because the targets
    were found after it. -/
theorem PrunesTo.resolvesTo {c c' : Chain} (run : h.PrunesTo targets c c')
    (hc : h.resolvesTo targets c.render = true) : h.resolvesTo targets c'.render = true := by
  cases run with
  | refl => exact hc
  | without _ i found => exact found

/-- Pruning keeps the targets. -/
theorem resolvesTo_prune {c : Chain} (hc : h.resolvesTo targets c.render = true) :
    h.resolvesTo targets (h.prune targets c).render = true :=
  (prunesTo_prune h targets c).resolvesTo hc

/-! ## What is left

  A segment that could not be left out when it was tried may be left out later, once others are
  gone; a host is free to answer so.  What can be said for every host is that there was a time at
  which the segment was needed. -/

/-- **What a sweep that tries everything leaves was needed when it was tried.**  By induction on the
    places still to be tried.  The chain `b` is the one the sweep had when it came to the place `i`:
    pruned from the chain at the start, and pruned further to what is left at the end. -/
theorem exists_needed_of_foldl {places : List Nat} {c : Chain} {i : Nat} {s : Segment}
    (hi : i ∈ places)
    (hs : (places.foldl (h.dropAt targets fun _ => true) c).get? i = some s) :
    ∃ b, h.PrunesTo targets c b ∧
      h.PrunesTo targets b (places.foldl (h.dropAt targets fun _ => true) c) ∧
      h.resolvesTo targets (b.without i).render = false := by
  induction places generalizing c with
  | nil => cases hi
  | cons j places ih =>
    rw [List.foldl_cons] at hs ⊢
    have hstep := prunesTo_dropAt h targets (fun _ => true) c j
    have hlater := prunesTo_foldl h targets (fun _ => true) places
      (h.dropAt targets (fun _ => true) c j)
    -- either `i` is tried now, or it is tried later, and then from a chain pruned further
    by_cases hij : i = j
    · subst hij
      rcases dropAt_cases h targets (fun _ => true) c i with ⟨heq, -⟩ | ⟨heq, hneed⟩
      · -- a segment left out is not there at the end
        rw [heq] at hs hlater
        rw [hlater.thins.get?_eq_none (c.get?_without_self i)] at hs
        cases hs
      · rw [heq] at hs hlater ⊢
        exact ⟨c, .refl c, hlater, hneed s (hlater.thins.get?_eq_some hs) rfl⟩
    · have hi' : i ∈ places := (List.mem_cons.1 hi).resolve_left hij
      obtain ⟨b, hcb, hb, hneed⟩ := ih hi' hs
      exact ⟨b, hstep.trans hcb, hb, hneed⟩

/-- **Every segment left by pruning was needed when the second sweep tried it.**  The first sweep
    tries some of the segments only, but it keeps the places, so the second one comes to each place
    that is still filled. -/
theorem exists_needed_of_prune {c : Chain} {i : Nat} {s : Segment}
    (hs : (h.prune targets c).get? i = some s) :
    ∃ b, h.PrunesTo targets c b ∧ h.PrunesTo targets b (h.prune targets c) ∧
      h.resolvesTo targets (b.without i).render = false := by
  have hfirst := prunesTo_foldl h targets Segment.isLowSpecificity
    (List.range c.length) c
  have hi : i ∈ List.range (h.sweep targets Segment.isLowSpecificity c).length := by
    rw [List.mem_range]
    exact Chain.lt_length_of_get? ((prunesTo_foldl h targets _ _ _).thins.get?_eq_some hs)
  obtain ⟨b, hcb, hb, hneed⟩ := exists_needed_of_foldl hi hs
  exact ⟨b, hfirst.trans hcb, hb, hneed⟩

/-- Trying a segment that is needed changes nothing. -/
theorem dropAt_eq_self {mayTry : Segment → Bool} {c : Chain} {i : Nat}
    (hneed : ∀ s, c.get? i = some s → h.resolvesTo targets (c.without i).render = false) :
    h.dropAt targets mayTry c i = c := by
  unfold dropAt
  cases hs : c.get? i with
  | none => rfl
  | some s => simp [hneed s hs]

/-- A chain in which every segment is needed is left as it is, by both sweeps. -/
theorem prune_eq_self {c : Chain}
    (hneed : ∀ i s, c.get? i = some s → h.resolvesTo targets (c.without i).render = false) :
    h.prune targets c = c := by
  have hfold : ∀ (mayTry : Segment → Bool) (places : List Nat),
      places.foldl (h.dropAt targets mayTry) c = c := by
    intro mayTry places
    induction places with
    | nil => rfl
    | cons i places ih => rw [List.foldl_cons, dropAt_eq_self (hneed i), ih]
  rw [prune, sweep, sweep, hfold, hfold]

/-! ## The answer

  The minimizer asks once whether the chain finds its targets, prunes, and looks at the end whether
  anything is left.  The last question always has the same answer. -/

/-- A chain that finds its targets has a segment: the empty text finds nothing. -/
theorem isEmpty_eq_false_of_resolvesTo {c : Chain}
    (hc : h.resolvesTo targets c.render = true) : c.isEmpty = false := by
  rw [Bool.eq_false_iff]
  intro he
  exact ne_empty_of_resolvesTo hc (Chain.render_of_isEmpty he)

/-- **The only ways to fail** are to have no targets and to start from a chain that does not find
    them; the answer is the pruned chain. -/
theorem minimize_eq_some_iff {c m : Chain} :
    h.minimize targets c = some m ↔
      targets ≠ [] ∧ h.resolvesTo targets c.render = true ∧ m = h.prune targets c := by
  unfold minimize
  by_cases hfail : (targets.isEmpty || !h.resolvesTo targets c.render) = true
  · rw [if_pos hfail]
    refine ⟨fun hm => absurd hm (by simp), ?_⟩
    rintro ⟨ht, hr, -⟩
    rw [hr, Bool.not_true, Bool.or_false, List.isEmpty_iff] at hfail
    exact absurd hfail ht
  · rw [if_neg hfail]
    rw [Bool.or_eq_true, not_or, List.isEmpty_iff, Bool.not_eq_true', Bool.not_eq_false] at hfail
    obtain ⟨ht, hr⟩ := hfail
    -- the last way out is never taken
    have hne := isEmpty_eq_false_of_resolvesTo (resolvesTo_prune hr)
    dsimp only
    rw [if_neg (Bool.eq_false_iff.1 hne), Option.some_inj]
    exact ⟨fun hm => ⟨ht, hr, hm.symm⟩, fun hm => hm.2.2.symm⟩

/-- Where the chain finds its targets, and there are any, the answer is the pruned chain. -/
theorem minimize_of_resolvesTo (ht : targets ≠ []) {c : Chain}
    (hc : h.resolvesTo targets c.render = true) :
    h.minimize targets c = some (h.prune targets c) :=
  minimize_eq_some_iff.2 ⟨ht, hc, rfl⟩

/-- The answer finds the targets. -/
theorem resolvesTo_of_minimize {c m : Chain} (hm : h.minimize targets c = some m) :
    h.resolvesTo targets m.render = true := by
  obtain ⟨-, hr, rfl⟩ := minimize_eq_some_iff.1 hm
  exact resolvesTo_prune hr

/-- **What `minimize` promises**, whatever the host, the targets and the segments are: it answers
    exactly where there are targets and the chain finds them, and the answer is the same chain,
    maybe without some of its segments but never without all, that still finds the targets. -/
theorem minimize_keeps_targets (h : Host E ε) (targets : List E) (c : Chain) :
    ((h.minimize targets c).isSome = true ↔
      targets ≠ [] ∧ h.resolvesTo targets c.render = true) ∧
    ∀ m, h.minimize targets c = some m →
      m.length = c.length ∧ (∀ i, m.get? i = c.get? i ∨ m.get? i = none) ∧
      m.isEmpty = false ∧ h.resolvesTo targets m.render = true := by
  constructor
  · rw [Option.isSome_iff_exists]
    constructor
    · rintro ⟨m, hm⟩
      obtain ⟨ht, hr, -⟩ := minimize_eq_some_iff.1 hm
      exact ⟨ht, hr⟩
    · rintro ⟨ht, hr⟩
      exact ⟨_, minimize_of_resolvesTo ht hr⟩
  · intro m hm
    have hr := resolvesTo_of_minimize hm
    obtain ⟨-, -, rfl⟩ := minimize_eq_some_iff.1 hm
    have hthins := (prunesTo_prune h targets c).thins
    exact ⟨hthins.length_eq, hthins.get?, isEmpty_eq_false_of_resolvesTo hr, hr⟩

/-- A list of three items, the middle one marked by a class. -/
def markedList : Document := Document.ofSteps
  [.edit (.element "ul"), .edit (.append 0 1), .edit (.element "li"), .edit (.append 1 2),
   .edit (.element "li"), .edit (.append 1 3), .edit (.element "li"), .edit (.append 1 4),
   .edit (.attribute 3 "class" "on"), .finalize]

/-- The chain of the three items has an empty place, and it does without the list. -/
theorem minimize_keeps_items :
    markedList.host.resolvesTo [4, 2, 3, 4] (Chain.render ⟨[some "ul", none, some "li"]⟩) = true ∧
    ∃ m, markedList.host.minimize [4, 2, 3, 4] ⟨[some "ul", none, some "li"]⟩ = some m ∧
      m.length = 3 ∧
      (∀ i, m.get? i = Chain.get? ⟨[some "ul", none, some "li"]⟩ i ∨ m.get? i = none) ∧
      m.isEmpty = false ∧ markedList.host.resolvesTo [4, 2, 3, 4] m.render = true := by
  have hr : markedList.host.resolvesTo [4, 2, 3, 4]
      (Chain.render ⟨[some "ul", none, some "li"]⟩) = true := by decide +kernel
  obtain ⟨hsome, hthins⟩ := minimize_keeps_targets markedList.host [4, 2, 3, 4]
    ⟨[some "ul", none, some "li"]⟩
  obtain ⟨m, hm⟩ := Option.isSome_iff_exists.1 (hsome.2 ⟨by simp, hr⟩)
  exact ⟨hr, m, hm, hthins m hm⟩

end Host

end Pinpoint
