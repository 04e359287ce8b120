/-
  Two hosts that answer alike.

  The elements of one host may go by other names in another.  Where the second host says of every
  element what the first says of its counterpart, and answers every selector that a search may ask
  with the counterparts of what the first one finds, a search cannot tell the two apart.

  1. What it means that answers correspond, element by element (`SameFound`).
  2. `Mirrors`: what the two hosts have in common.  Only some elements and some texts are asked for,
     and nothing is said of the others.
  3. Finding one element and finding several.
  4. **Each step of a search goes the same way**: the segments and the chain of a level, the first
     chain that resolves, pruning.
  5. **So do the searches** (`Mirrors.shortestSelector?_eq`, `Mirrors.commonSelector?_eq`).
-/
import Mathlib.Data.List.Find
import Mathlib.Data.Set.Function
import Pinpoint.Proofs.Search.Grammar

namespace Pinpoint

/-! ## Lists of counterparts

  What a search does with lists of elements: it tests members, compares with one element, and
  removes repetitions.  Going over to the counterparts changes none of this, as long as no two
  elements of the lists have the same one. -/

/-- Two tests that agree on the members of a list hold of all of them together. -/
theorem all_congr_of_mem {α : Type} {l : List α} {p q : α → Bool} (h : ∀ a ∈ l, p a = q a) :
    l.all p = l.all q := by
  rw [Bool.eq_iff_iff, List.all_eq_true, List.all_eq_true]
  exact forall₂_congr fun a ha => by rw [h a ha]

/-- The same for a test that some member passes. -/
theorem any_congr_of_mem {α : Type} {l : List α} {p q : α → Bool} (h : ∀ a ∈ l, p a = q a) :
    l.any p = l.any q := by
  rw [Bool.eq_iff_iff, List.any_eq_true, List.any_eq_true]
  exact exists_congr fun a => and_congr_right fun ha => by rw [h a ha]

section Counterparts

variable {α β : Type} {f : α → β} {A : Set α} (hf : Set.InjOn f A)
include hf

/-- A counterpart is in the list of counterparts exactly if its element is in the list. -/
theorem mem_map_iff_of_injOn {l : List α} (hl : ∀ b ∈ l, b ∈ A) {a : α} (ha : a ∈ A) :
    f a ∈ l.map f ↔ a ∈ l := by
  rw [List.mem_map]
  constructor
  · rintro ⟨b, hb, heq⟩
    exact hf (hl b hb) ha heq ▸ hb
  · exact fun h => ⟨a, h, rfl⟩

/-- The list of counterparts is one element alone exactly if the list is. -/
theorem map_eq_singleton_iff_of_injOn {l : List α} (hl : ∀ b ∈ l, b ∈ A) {a : α} (ha : a ∈ A) :
    l.map f = [f a] ↔ l = [a] := by
  rw [List.map_eq_singleton_iff]
  constructor
  · rintro ⟨b, rfl, heq⟩
    rw [hf (hl b (List.mem_singleton_self b)) ha heq]
  · rintro rfl
    exact ⟨a, rfl, rfl⟩

variable [DecidableEq α] [DecidableEq β]

/-- Removing repetitions and taking counterparts can be done in either order: two elements of the
    list are the same exactly if their counterparts are. -/
theorem distinct_map_of_injOn {l : List α} (hl : ∀ b ∈ l, b ∈ A) :
    distinct (l.map f) = (distinct l).map f := by
  induction l with
  | nil => rfl
  | cons a l ih =>
    obtain ⟨ha, hl⟩ := List.forall_mem_cons.1 hl
    rw [List.map_cons, distinct, distinct, ih hl, List.map_cons, List.filter_map]
    congr 2
    refine List.filter_congr fun b hb => ?_
    have hb : b ∈ A := hl b (mem_distinct.1 hb)
    simp [hf.eq_iff hb ha]

end Counterparts

namespace Host

/-! ## Hosts that answer alike

  A search knows its host by four questions: the tokens of an element, its lineage, what a text
  finds in the document, and what it finds among the siblings of an element.  Two hosts are alike if
  they agree on these four. -/

section Mirrors

variable {E E' ε ε' : Type} {f : E → E'} {A : Set E}

/-- The second answer lists the counterparts of the elements in the first one, in the same order;
    all of them are asked about. -/
structure SameFound (f : E → E') (A : Set E) (found : Option (List E))
    (found' : Option (List E')) : Prop where
  eq_map : found' = found.map (List.map f)
  asked : ∀ l, found = some l → ∀ b ∈ l, b ∈ A

/-- The host `h'` answers as `h` does.  Elements in `A` go by `f` in `h'`, and selectors are chains
    of texts in `W`; the candidates of the elements are such texts.

    `A` has the elements that a search may come to: it is closed under lineages and under the
    answers of the host.  `W` has the segments that a search may write.  Nothing is asked of `f`
    outside `A`, nor of the hosts' answers to other texts, so the second host may have elements of
    its own as long as no such text finds them. -/
structure Mirrors (h : Host E ε) (h' : Host E' ε') (o : Options) (f : E → E') (A : Set E)
    (W : Segment → Prop) : Prop where
  injective : Set.InjOn f A
  tokens : ∀ a ∈ A, h'.tokens o (f a) = h.tokens o a
  lineage : ∀ a ∈ A, h'.lineage (f a) = (h.lineage a).map f
  lineage_asked : ∀ a ∈ A, ∀ b ∈ h.lineage a, b ∈ A
  candidates : ∀ a ∈ A, ∀ kinds : List Kind, (∀ k ∈ kinds, k ∈ o.kinds) →
    ∀ s ∈ (h.tokens o a).candidates o kinds, W s
  document : ∀ c : Chain, (∀ i s, c.get? i = some s → W s) →
    SameFound f A (h.found? c.render .document) (h'.found? c.render .document)
  siblings : ∀ a s, a ∈ A → W s →
    SameFound f A (h.found? s (.childrenOf (h.parent a)))
      (h'.found? s (.childrenOf (h'.parent (f a))))

end Mirrors

namespace Mirrors

variable {E E' ε ε' : Type} [DecidableEq E] [DecidableEq E'] {h : Host E ε} {h' : Host E' ε'}
  {o : Options} {f : E → E'} {A : Set E} {W : Segment → Prop} {a : E} {c : Chain}
  {targets : List E} {kinds : List Kind}

/-! ## Finding elements

  Every decision of a search is a comparison of an answer with a target or with a set of targets. -/

/-- Corresponding answers are one element alone in the same cases. -/
theorem beq_singleton (hf : Set.InjOn f A) {found : Option (List E)} {found' : Option (List E')}
    (hfound : SameFound f A found found') (ha : a ∈ A) :
    (found' == some [f a]) = (found == some [a]) := by
  rw [Bool.eq_iff_iff, beq_iff_eq, beq_iff_eq, hfound.eq_map]
  cases found with
  | none => simp
  | some l =>
    rw [Option.map_some, Option.some_inj, Option.some_inj,
      map_eq_singleton_iff_of_injOn hf (hfound.asked l rfl) ha]

variable (m : Mirrors h h' o f A W)
include m

/-- A segment is unique among siblings in one host exactly if it is in the other. -/
theorem isUniqueAmongSiblings_eq (ha : a ∈ A) {s : Segment} (hs : W s) :
    h'.isUniqueAmongSiblings (f a) s = h.isUniqueAmongSiblings a s :=
  beq_singleton m.injective (m.siblings a s ha hs) ha

variable (hc : ∀ i s, c.get? i = some s → W s)
include hc

/-- The comparison with a set of targets.  Both hosts compare the number of answers with the number
    of distinct targets, and look every answer up among the targets; the counterparts agree in all
    three. -/
theorem isSameSet_eq (ht : ∀ b ∈ targets, b ∈ A) :
    h'.isSameSet (targets.map f) c.render = h.isSameSet targets c.render := by
  have hfound := m.document c hc
  rw [isSameSet, isSameSet, hfound.eq_map]
  cases hl : h.found? c.render .document with
  | none => rfl
  | some l =>
    have hasked := hfound.asked l hl
    have hcontains : ∀ b ∈ l, (targets.map f).contains (f b) = targets.contains b := by
      intro b hb
      rw [Bool.eq_iff_iff, List.contains_iff_mem, List.contains_iff_mem,
        mem_map_iff_of_injOn m.injective ht (hasked b hb)]
    rw [Option.map_some]
    dsimp only
    rw [List.length_map, distinct_map_of_injOn m.injective ht, List.length_map, List.all_map]
    congr 1
    exact all_congr_of_mem hcontains

/-- The comparison with one target. -/
theorem isUnique_eq (ha : a ∈ A) : h'.isUnique (f a) c.render = h.isUnique a c.render :=
  beq_singleton m.injective (m.document c hc) ha

/-- The comparison that pruning makes is one of the two above. -/
theorem resolvesTo_eq (ht : ∀ b ∈ targets, b ∈ A) :
    h'.resolvesTo (targets.map f) c.render = h.resolvesTo targets c.render := by
  rw [resolvesTo_eq_isSameSet, resolvesTo_eq_isSameSet, m.isSameSet_eq hc ht]

/-! ## Pruning

  Pruning only takes segments away.  So a chain of texts of the search stays one, and each step can
  ask about it again. -/

/-- Trying a place goes the same way.  The chain without the place has fewer segments, so it is one
    that the hosts answer alike. -/
theorem dropAt_eq (ht : ∀ b ∈ targets, b ∈ A) (mayTry : Segment → Bool) (i : Nat) :
    h'.dropAt (targets.map f) mayTry c i = h.dropAt targets mayTry c i := by
  have hwithout : h'.resolvesTo (targets.map f) (c.without i).render =
      h.resolvesTo targets (c.without i).render := m.resolvesTo_eq
    (fun j s hs => hc j s ((c.thins_without i).get?_eq_some hs)) ht
  rw [dropAt, dropAt, hwithout]

/-- A sweep over some places goes the same way.  The chain changes from place to place, but only by
    losing segments, so its segments stay texts of the search. -/
theorem foldl_dropAt_eq (ht : ∀ b ∈ targets, b ∈ A) (mayTry : Segment → Bool) (places : List Nat) :
    places.foldl (h'.dropAt (targets.map f) mayTry) c =
      places.foldl (h.dropAt targets mayTry) c := by
  induction places generalizing c with
  | nil => rfl
  | cons i places ih =>
    have hthins := (prunesTo_dropAt h targets mayTry c i).thins
    rw [List.foldl_cons, List.foldl_cons, m.dropAt_eq hc ht]
    exact ih fun j s hs => hc j s (hthins.get?_eq_some hs)

/-- **Pruning goes the same way.**  The second sweep starts from what the first one left, which is
    thinner than the chain at the start. -/
theorem prune_eq (ht : ∀ b ∈ targets, b ∈ A) :
    h'.prune (targets.map f) c = h.prune targets c := by
  have hthins := (prunesTo_foldl h targets Segment.isLowSpecificity (List.range c.length) c).thins
  rw [prune, prune, sweep, sweep, sweep, sweep, m.foldl_dropAt_eq hc ht]
  exact m.foldl_dropAt_eq (fun j s hs => hc j s (hthins.get?_eq_some hs)) ht _ _

/-- Minimizing goes the same way, its test before pruning included. -/
theorem minimize_eq (ht : ∀ b ∈ targets, b ∈ A) :
    h'.minimize (targets.map f) c = h.minimize targets c := by
  have hempty : (targets.map f).isEmpty = targets.isEmpty := by
    cases targets <;> rfl
  rw [minimize, minimize, m.resolvesTo_eq hc ht, m.prune_eq hc ht, hempty]

omit hc

/-! ## Levels

  The chain of a level is made of candidates of the elements in the lineage.  These are texts of the
  search by assumption, which is where the condition on chains above is met. -/

/-- The segment of an element: both hosts list the same candidates, and the first that is unique
    among siblings is the same. -/
theorem segment?_eq (ha : a ∈ A) (hkinds : ∀ k ∈ kinds, k ∈ o.kinds) :
    h'.segment? o kinds (f a) (h'.tokens o (f a)) = h.segment? o kinds a (h.tokens o a) := by
  rw [segment?, segment?, m.tokens a ha]
  exact List.find?_congr fun s hs =>
    m.isUniqueAmongSiblings_eq ha (m.candidates a ha kinds hkinds s hs)

/-- **A level gives the same chain.**  The lineages correspond element by element, and each element
    has the same segment as its counterpart. -/
theorem chainAt?_eq (ha : a ∈ A) (hkinds : ∀ k ∈ kinds, k ∈ o.kinds) :
    h'.chainAt? o (h'.tokenLineage o (f a)) kinds = h.chainAt? o (h.tokenLineage o a) kinds := by
  have hslots : (h'.tokenLineage o (f a)).map (fun p => h'.segment? o kinds p.1 p.2) =
      (h.tokenLineage o a).map fun p => h.segment? o kinds p.1 p.2 := by
    rw [tokenLineage, tokenLineage, m.lineage a ha, ← List.map_reverse, List.map_map, List.map_map,
      List.map_map]
    refine List.map_congr_left fun b hb => ?_
    exact m.segment?_eq (m.lineage_asked a ha b (List.mem_reverse.1 hb)) hkinds
  rw [chainAt?_eq_ite, chainAt?_eq_ite, hslots]

omit [DecidableEq E'] in
/-- The segments of a level's chain are texts of the search. -/
theorem get?_of_chainAt? (ha : a ∈ A) (hkinds : ∀ k ∈ kinds, k ∈ o.kinds)
    (hc : h.chainAt? o (h.tokenLineage o a) kinds = some c) {i : Nat} {s : Segment}
    (hs : c.get? i = some s) : W s := by
  rw [chainAt?] at hc
  dsimp only at hc
  split at hc
  · cases hc
  · cases hc
    obtain ⟨⟨b, t⟩, hbt, hsegment⟩ := List.mem_map.1 (Chain.exists_get?_iff.1 ⟨i, hs⟩)
    obtain ⟨b, hb, heq⟩ := List.mem_map.1 hbt
    cases heq
    exact m.candidates b (m.lineage_asked a ha b (List.mem_reverse.1 hb)) kinds hkinds s
      (List.mem_of_find?_eq_some hsegment)

/-- Whether the chain of a level resolves to the element. -/
theorem resolvingChain?_eq (ha : a ∈ A) (hkinds : ∀ k ∈ kinds, k ∈ o.kinds) :
    h'.resolvingChain? o (f a) (h'.tokenLineage o (f a)) kinds =
      h.resolvingChain? o a (h.tokenLineage o a) kinds := by
  rw [resolvingChain?, resolvingChain?, m.chainAt?_eq ha hkinds]
  cases hc : h.chainAt? o (h.tokenLineage o a) kinds with
  | none => rfl
  | some c =>
    rw [Option.filter_some, Option.filter_some,
      m.isUnique_eq (fun i s hs => m.get?_of_chainAt? ha hkinds hc hs) ha]

/-- **The first chain that resolves is the same.**  Both searches go through the same levels in the
    same order. -/
theorem uniqueChain?_eq (ha : a ∈ A) : h'.uniqueChain? o (f a) = h.uniqueChain? o a := by
  have hlevels : ∀ levels : List (List Kind), (∀ kinds ∈ levels, kinds ∈ o.levels) →
      levels.findSome? (h'.resolvingChain? o (f a) (h'.tokenLineage o (f a))) =
        levels.findSome? (h.resolvingChain? o a (h.tokenLineage o a)) := by
    intro levels
    induction levels with
    | nil => exact fun _ => rfl
    | cons kinds levels ih =>
      intro hmem
      obtain ⟨hkinds, hlater⟩ := List.forall_mem_cons.1 hmem
      rw [List.findSome?_cons, List.findSome?_cons,
        m.resolvingChain?_eq ha (mem_kinds_of_mem_levels hkinds), ih hlater]
  exact hlevels o.levels fun _ hk => hk

omit [DecidableEq E'] in
/-- The segments of the first chain that resolves are texts of the search, as it is the chain of
    some level. -/
theorem get?_of_uniqueChain? (ha : a ∈ A) (hc : h.uniqueChain? o a = some c) {i : Nat} {s : Segment}
    (hs : c.get? i = some s) : W s := by
  obtain ⟨b, hb, -, kinds, hkinds, hmem⟩ := exists_candidate_of_uniqueChain? hc hs
  exact m.candidates b (m.lineage_asked a ha b hb) kinds hkinds s hmem

/-! ## The search for one element -/

/-- **Counterparts have the same shortest selector.** -/
theorem shortestSelector?_eq (ha : a ∈ A) :
    h'.shortestSelector? o (f a) = h.shortestSelector? o a := by
  rw [shortestSelector?_eq_map, shortestSelector?_eq_map, m.uniqueChain?_eq ha]
  cases hc : h.uniqueChain? o a with
  | none => rfl
  | some c =>
    have hprune : h'.prune ([a].map f) c = h.prune [a] c := m.prune_eq
      (fun i s hs => m.get?_of_uniqueChain? ha hc hs) (List.forall_mem_singleton.2 ha)
    rw [List.map_singleton] at hprune
    rw [Option.map_some, Option.map_some, hprune]

/-! ## The search for several elements

  The same steps for each of the targets, and then the meet of their chains.  The segments of the
  meet are segments of the first chain, and what is put in at the end is a candidate of the first
  target. -/

omit [DecidableEq E] [DecidableEq E'] in
/-- The candidates for the last place come from the tokens of the element alone. -/
theorem leafCandidates_eq (ha : a ∈ A) : h'.leafCandidates o (f a) = h.leafCandidates o a := by
  rw [leafCandidates, leafCandidates, m.tokens a ha]

omit [DecidableEq E] [DecidableEq E'] in
/-- So the shared ones are the same.  The first element gives the list, and each later one filters
    it. -/
theorem sharedCandidates_eq {first : E} {others : List E} (hfirst : first ∈ A)
    (hothers : ∀ b ∈ others, b ∈ A) :
    h'.sharedCandidates o (f first) (others.map f) = h.sharedCandidates o first others := by
  rw [sharedCandidates, sharedCandidates, m.leafCandidates_eq hfirst]
  generalize h.leafCandidates o first = shared
  induction others generalizing shared with
  | nil => rfl
  | cons b others ih =>
    obtain ⟨hb, hothers⟩ := List.forall_mem_cons.1 hothers
    rw [List.map_cons, List.foldl_cons, List.foldl_cons, ih hothers, m.leafCandidates_eq hb]

/-- Filling the last place: the first shared candidate whose chain finds the targets. -/
theorem withLeaf?_eq (ht : ∀ b ∈ targets, b ∈ A) {shared : List String}
    (hshared : ∀ s ∈ shared, W s) (hc : ∀ i s, c.get? i = some s → W s) :
    h'.withLeaf? (targets.map f) shared c = h.withLeaf? targets shared c := by
  rw [withLeaf?, withLeaf?]
  split
  · rfl
  · split
    · rfl
    · refine List.find?_congr fun filled hfilled => ?_
      obtain ⟨leaf, hleaf, rfl⟩ := List.mem_map.1 hfilled
      refine m.isSameSet_eq (fun i s hs => ?_) ht
      rcases Chain.get?_set_eq_some hs with ⟨-, heq⟩ | hs
      · cases heq
        exact hshared _ hleaf
      · exact hc i s hs

/-- The chains of all the targets, or nothing if one of them has none. -/
theorem mapM_uniqueChain?_eq (ht : ∀ b ∈ targets, b ∈ A) :
    (targets.map f).mapM (h'.uniqueChain? o) = targets.mapM (h.uniqueChain? o) := by
  induction targets with
  | nil => rfl
  | cons b targets ih =>
    obtain ⟨hb, ht⟩ := List.forall_mem_cons.1 ht
    rw [List.map_cons, List.mapM_cons, List.mapM_cons, m.uniqueChain?_eq hb, ih ht]

/-- From the chain of the first element on, everything goes the same way: the meet has segments of
    this chain, and a leaf from elsewhere is a candidate of the first element. -/
theorem bind_withLeaf?_eq {first : E} {others : List E} {cs : List Chain}
    (ht : ∀ b ∈ first :: others, b ∈ A) (hc : h.uniqueChain? o first = some c) :
    ((h'.withLeaf? ((first :: others).map f) (h'.sharedCandidates o (f first) (others.map f))
        (c.meet cs)).bind fun chain =>
      if h'.isSameSet ((first :: others).map f) chain.render then
        (h'.minimize ((first :: others).map f) chain).map Chain.render
      else none) =
    (h.withLeaf? (first :: others) (h.sharedCandidates o first others) (c.meet cs)).bind
      fun chain =>
        if h.isSameSet (first :: others) chain.render then
          (h.minimize (first :: others) chain).map Chain.render
        else none := by
  obtain ⟨hfirst, hothers⟩ := List.forall_mem_cons.1 ht
  have hmeet : ∀ i s, (c.meet cs).get? i = some s → W s := fun i s hs =>
    m.get?_of_uniqueChain? hfirst hc (Chain.get?_meet_eq_some_iff.1 hs c List.mem_cons_self)
  -- every text that the search goes on to try is one that both hosts answer alike
  have hshared : ∀ s ∈ h.sharedCandidates o first others, W s := fun s hs =>
    m.candidates first hfirst o.kinds (fun _ hk => hk) s
      (mem_sharedCandidates_iff.1 hs first List.mem_cons_self)
  rw [m.sharedCandidates_eq hfirst hothers, m.withLeaf?_eq ht hshared hmeet]
  cases hw : h.withLeaf? (first :: others) (h.sharedCandidates o first others) (c.meet cs) with
  | none => rfl
  | some chain =>
    have hwords : ∀ i s, chain.get? i = some s → W s := by
      intro i s hs
      rcases get?_of_hasLeaf (hasLeaf_of_withLeaf? hw) hs with hs | hs
      · exact m.get?_of_uniqueChain? hfirst hc hs
      · exact m.candidates first hfirst o.kinds (fun _ hk => hk) s hs
    rw [Option.bind_some, Option.bind_some, m.isSameSet_eq hwords ht, m.minimize_eq hwords ht]

/-- **Lists of counterparts have the same common selector.**  The distinct targets correspond, their
    chains are the same, and from the first chain on `bind_withLeaf?_eq` says the rest. -/
theorem commonSelector?_eq {elements : List E} (helements : ∀ b ∈ elements, b ∈ A) :
    h'.commonSelector? o (elements.map f) = h.commonSelector? o elements := by
  have hasked : ∀ b ∈ distinct elements, b ∈ A := fun b hb => helements b (mem_distinct.1 hb)
  rw [commonSelector?, commonSelector?, distinct_map_of_injOn m.injective helements]
  cases hd : distinct elements with
  | nil => rfl
  | cons first others =>
    rw [hd] at hasked
    have hchains := m.mapM_uniqueChain?_eq hasked
    rw [List.map_cons] at hchains ⊢
    dsimp only
    rw [hchains]
    cases hm : (first :: others).mapM (h.uniqueChain? o) with
    | none => rfl
    | some chains =>
      cases chains with
      | nil => rfl
      | cons c cs => exact m.bind_withLeaf?_eq hasked (eq_some_of_mapM_cons hm)

end Mirrors

end Host

end Pinpoint
