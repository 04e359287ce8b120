/-
  Laying chains over each other.

  1. A place of the meet holds a segment exactly when every chain holds this segment there; the
     meet is as long as the first chain, and apart from that the order of the chains is nothing
     to it.
  2. A candidate is shared when every element has it, whichever element comes first.
  3. **When a search for several elements answers** (`commonSelector?_isSome_iff`): every element
     has a chain, and the meet has a leaf, its own or a shared one, with which it finds the
     elements.
-/
import Pinpoint.Proofs.Search.DocumentHost
import Pinpoint.Proofs.Search.Single
import Pinpoint.Search.Shared

namespace Pinpoint

/-! ## The meet

  Chains are laid over each other place by place, and a segment stays where all of them have it. -/

namespace Chain

variable {first : Chain} {others : List Chain} {i : Nat} {s : Segment}

/-- The meet has the places of the first chain. -/
@[simp] theorem length_meet (first : Chain) (others : List Chain) :
    (first.meet others).length = first.length := by
  simp [meet, length]

/-- A place of the meet: what the first chain has there, if the others have the same. -/
theorem get?_meet (first : Chain) (others : List Chain) (i : Nat) :
    (first.meet others).get? i =
      (first.get? i).filter fun s => others.all fun c => c.get? i == some s := by
  rw [get?, meet, List.getElem?_map]
  rcases Nat.lt_or_ge i first.length with hi | hi
  · rw [List.getElem?_range hi]
    rfl
  · have hnone : first.get? i = none := by rw [get?, List.getElem?_eq_none hi]; rfl
    rw [List.getElem?_eq_none (by rw [List.length_range]; exact hi), hnone]
    rfl

/-- **A place of the meet holds what every chain holds there.** -/
theorem get?_meet_eq_some_iff :
    (first.meet others).get? i = some s ↔ ∀ c ∈ first :: others, c.get? i = some s := by
  rw [get?_meet, Option.filter_eq_some_iff, List.forall_mem_cons, List.all_eq_true]
  simp only [beq_iff_eq]

/-- What a place holds when one place was filled: what it was filled with, or what was there. -/
theorem get?_set_eq_some {c : Chain} {j : Nat} {x : Option Segment}
    (h : (c.set i x).get? j = some s) : (j = i ∧ x = some s) ∨ c.get? j = some s := by
  rw [get?_eq_some_iff, set, List.getElem?_set] at h
  split at h
  · rename_i hij
    split at h
    · exact Or.inl ⟨hij.symm, Option.some.inj h⟩
    · cases h
  · exact Or.inr (get?_eq_some_iff.2 h)

/-- Filling a place with what it holds changes nothing. -/
theorem set_eq_self {c : Chain} (hs : c.get? i = some s) : c.set i (some s) = c := by
  obtain ⟨hlt, heq⟩ := List.getElem?_eq_some_iff.1 (get?_eq_some_iff.1 hs)
  rw [set, ← heq, List.set_getElem_self]

/-- A chain is its length and its segments. -/
theorem ext_get? {c c' : Chain} (hlen : c.length = c'.length)
    (h : ∀ i s, c.get? i = some s ↔ c'.get? i = some s) : c = c' := by
  obtain ⟨slots⟩ := c
  obtain ⟨slots'⟩ := c'
  congr 1
  refine List.ext_getElem hlen fun i hi hi' => ?_
  have hget : ∀ s, slots[i] = some s ↔ slots'[i] = some s := by
    intro s
    have := h i s
    rwa [get?_eq_some_iff, get?_eq_some_iff, List.getElem?_eq_getElem hi,
      List.getElem?_eq_getElem hi', Option.some_inj, Option.some_inj] at this
  exact Option.ext hget

/-- **The meet does not depend on the order of the chains**, as long as the first one has the same
    length.  Places behind the end of a shorter chain hold nothing, so they hold nothing in the
    meet, but there are as many as the first chain says. -/
theorem meet_eq_of_perm {first' : Chain} {others' : List Chain}
    (hperm : (first :: others).Perm (first' :: others')) (hlen : first.length = first'.length) :
    first.meet others = first'.meet others' := by
  refine ext_get? (by rw [length_meet, length_meet, hlen]) fun i s => ?_
  rw [get?_meet_eq_some_iff, get?_meet_eq_some_iff]
  exact ⟨fun h c hc => h c (hperm.mem_iff.2 hc), fun h c hc => h c (hperm.mem_iff.1 hc)⟩

/-- The segment in the innermost place. -/
def leaf? (c : Chain) : Option Segment := c.get? (c.length - 1)

/-- The innermost place is the last one. -/
theorem leaf?_eq (c : Chain) : c.leaf? = c.slots.getLast?.join := by
  rw [leaf?, get?, length, List.getLast?_eq_getElem?]

/-- A chain has a leaf if its last place is filled. -/
theorem leaf?_eq_some_iff {c : Chain} {leaf : Segment} :
    c.leaf? = some leaf ↔ ∃ left, c.slots = left ++ [some leaf] := by
  rw [leaf?_eq, Option.join_eq_some_iff, List.getLast?_eq_some_iff]

/-- The chain with another segment in its innermost place. -/
def withLeaf (c : Chain) (leaf : Segment) : Chain := c.set (c.length - 1) (some leaf)

/-- Giving a chain its own leaf changes nothing. -/
theorem withLeaf_eq_self {c : Chain} {leaf : Segment} (h : c.leaf? = some leaf) :
    c.withLeaf leaf = c := set_eq_self h

/-- The chain `filled` is `c` with its own leaf or, where `c` has none, with one of the given
    ones. -/
def HasLeaf (given : List Segment) (c filled : Chain) : Prop :=
  c.slots ≠ [] ∧ ∃ leaf, (c.leaf? = some leaf ∨ (c.leaf? = none ∧ leaf ∈ given)) ∧
    filled = c.withLeaf leaf

end Chain

/-! ## Shared candidates

  Where the chains disagree about the innermost place, a candidate that all elements have may stand
  there. -/

namespace Host

variable {E ε : Type} {h : Host E ε} {o : Options}

/-- **A candidate is shared when every element has it.**  The first element gives the list and the
    others filter it, one after another. -/
theorem mem_sharedCandidates_iff {first : E} {others : List E} {s : String} :
    s ∈ h.sharedCandidates o first others ↔ ∀ e ∈ first :: others, s ∈ h.leafCandidates o e := by
  have hfold : ∀ (others : List E) (shared : List String),
      s ∈ others.foldl (fun shared e => shared.filter (h.leafCandidates o e).contains) shared ↔
        s ∈ shared ∧ ∀ e ∈ others, s ∈ h.leafCandidates o e := by
    intro others
    induction others with
    | nil => simp
    | cons e others ih =>
      intro shared
      rw [List.foldl_cons, ih, List.mem_filter, List.contains_iff_mem, List.forall_mem_cons,
        and_assoc]
  rw [List.forall_mem_cons]
  exact hfold others (h.leafCandidates o first)

/-! ## Leaves

  The innermost place names the elements themselves and has to be filled. -/

variable [DecidableEq E] {targets : List E} {shared : List String} {c chain : Chain}

/-- The search for a leaf, in a chain that has places: its own leaf is taken untried, and otherwise
    the shared candidates are tried in their order. -/
theorem withLeaf?_of_ne_nil (hne : c.slots ≠ []) :
    h.withLeaf? targets shared c =
      match c.leaf? with
      | some _ => some c
      | none => (shared.map c.withLeaf).find? fun filled => h.isSameSet targets filled.render := by
  obtain ⟨slots⟩ := c
  obtain ⟨x, slots, rfl⟩ := List.exists_cons_of_ne_nil hne
  rfl

/-- What the search for a leaf returns is the chain with a leaf of either kind. -/
theorem hasLeaf_of_withLeaf? (hw : h.withLeaf? targets shared c = some chain) :
    Chain.HasLeaf shared c chain := by
  have hne : c.slots ≠ [] := by
    intro hnil
    rw [withLeaf?, Chain.length, hnil] at hw
    cases hw
  rw [withLeaf?_of_ne_nil hne] at hw
  cases hleaf : c.leaf? with
  | some leaf =>
    rw [hleaf] at hw
    cases hw
    exact ⟨hne, leaf, Or.inl hleaf, (Chain.withLeaf_eq_self hleaf).symm⟩
  | none =>
    rw [hleaf] at hw
    obtain ⟨leaf, hmem, rfl⟩ := List.mem_map.1 (List.mem_of_find?_eq_some hw)
    exact ⟨hne, leaf, Or.inr ⟨hleaf, hmem⟩, rfl⟩

/-- **A leaf with which the chain finds the targets is found**, if there is one.  A leaf of its own
    is not tried by this search; where it fails, no other is tried in its place. -/
theorem exists_withLeaf?_iff :
    (∃ chain, h.withLeaf? targets shared c = some chain ∧
      h.isSameSet targets chain.render = true) ↔
    ∃ chain, Chain.HasLeaf shared c chain ∧ h.isSameSet targets chain.render = true := by
  constructor
  · rintro ⟨chain, hw, hr⟩
    exact ⟨chain, hasLeaf_of_withLeaf? hw, hr⟩
  · rintro ⟨chain, ⟨hne, leaf, hleaf, rfl⟩, hr⟩
    rw [withLeaf?_of_ne_nil hne]
    rcases hleaf with hown | ⟨hnone, hmem⟩
    · rw [Chain.withLeaf_eq_self hown] at hr
      rw [hown]
      exact ⟨c, rfl, hr⟩
    · rw [hnone]
      dsimp only
      -- some candidate does, so the first one that does is found
      cases hfind : (shared.map c.withLeaf).find? fun filled =>
          h.isSameSet targets filled.render with
      | some chain =>
        have hfound := List.find?_some hfind
        exact ⟨chain, rfl, hfound⟩
      | none =>
        rw [List.find?_eq_none] at hfind
        exact absurd hr (hfind _ (List.mem_map.2 ⟨leaf, hmem, rfl⟩))

/-! ## The search

  Chains of all elements, their meet, a leaf, pruning: each of these steps may end the search
  without an answer. -/

/-- Steps that all answer, one after the other. -/
theorem mapM_eq_some_iff {α β : Type} {f : α → Option β} {l : List α} {bs : List β} :
    l.mapM f = some bs ↔ (∀ a ∈ l, (f a).isSome = true) ∧ bs = l.filterMap f := by
  induction l generalizing bs with
  | nil =>
    rw [List.filterMap_nil, eq_comm]
    simp
  | cons a l ih =>
    have hstep : (a :: l).mapM f = (f a).bind fun b => (l.mapM f).bind fun bs => some (b :: bs) :=
      List.mapM_cons
    rw [hstep, List.forall_mem_cons]
    cases hf : f a with
    | none => simp
    | some b =>
      rw [List.filterMap_cons_some hf, Option.bind_some, Option.bind_eq_some_iff]
      constructor
      · rintro ⟨bs', hbs', heq⟩
        cases heq
        obtain ⟨hall, rfl⟩ := ih.1 hbs'
        exact ⟨⟨rfl, hall⟩, rfl⟩
      · rintro ⟨⟨-, hall⟩, rfl⟩
        exact ⟨_, ih.2 ⟨hall, rfl⟩, rfl⟩

/-- The first answer is that of the first step. -/
theorem eq_some_of_mapM_cons {α β : Type} {f : α → Option β} {a : α} {l : List α} {b : β}
    {bs : List β} (h : (a :: l).mapM f = some (b :: bs)) : f a = some b := by
  obtain ⟨hall, heq⟩ := mapM_eq_some_iff.1 h
  obtain ⟨b', hb'⟩ := Option.isSome_iff_exists.1 (hall a List.mem_cons_self)
  rw [List.filterMap_cons_some hb', List.cons.injEq] at heq
  rw [hb', heq.1]

variable {elements others : List E} {first : E} {c : Chain} {cs : List Chain} {s : String}

/-- The search, when every element has a chain. -/
theorem commonSelector?_of_chains (hd : distinct elements = first :: others)
    (hm : (first :: others).mapM (h.uniqueChain? o) = some (c :: cs)) :
    h.commonSelector? o elements =
      (h.withLeaf? (first :: others) (h.sharedCandidates o first others) (c.meet cs)).bind
        fun chain =>
          if h.isSameSet (first :: others) chain.render then
            (h.minimize (first :: others) chain).map Chain.render
          else none := by
  unfold commonSelector?
  rw [hd]
  dsimp only
  rw [hm]
  rfl

/-- An answer needs elements, and a chain of each. -/
theorem exists_chains_of_commonSelector? (hs : h.commonSelector? o elements = some s) :
    ∃ first others c cs, distinct elements = first :: others ∧
      (first :: others).mapM (h.uniqueChain? o) = some (c :: cs) := by
  unfold commonSelector? at hs
  split at hs
  · cases hs
  · rename_i first others hd
    dsimp only at hs
    split at hs
    · cases hs
    · cases hs
    · rename_i c cs hm
      exact ⟨first, others, c, cs, hd, hm⟩

/-- **When the search answers**, every element having a chain: the meet has a leaf with which it
    finds the elements.  Pruning cannot fail then, so nothing else can. -/
theorem commonSelector?_isSome_iff (hd : distinct elements = first :: others)
    (hm : (first :: others).mapM (h.uniqueChain? o) = some (c :: cs)) :
    (h.commonSelector? o elements).isSome = true ↔
      ∃ chain, Chain.HasLeaf (h.sharedCandidates o first others) (c.meet cs) chain ∧
        h.isSameSet (first :: others) chain.render = true := by
  rw [commonSelector?_of_chains hd hm, ← exists_withLeaf?_iff, Option.isSome_iff_exists]
  constructor
  · rintro ⟨s, hs⟩
    obtain ⟨chain, hw, hs⟩ := Option.bind_eq_some_iff.1 hs
    split at hs
    · rename_i hr
      exact ⟨chain, hw, hr⟩
    · cases hs
  · rintro ⟨chain, hw, hr⟩
    -- a chain that finds the elements can always be pruned
    have hres : h.resolvesTo (first :: others) chain.render = true := by
      rw [resolvesTo_eq_isSameSet, hr]
    refine ⟨(h.prune (first :: others) chain).render,
      Option.bind_eq_some_iff.2 ⟨chain, hw, ?_⟩⟩
    rw [if_pos hr, minimize_of_resolvesTo (by simp) hres, Option.map_some]

/-- **Where an answer comes from**: the meet of the chains with a leaf, pruned.  Theorems about
    answers start from here and never unfold the search. -/
theorem exists_hasLeaf_of_commonSelector? (hs : h.commonSelector? o elements = some s) :
    ∃ first others c cs chain m, distinct elements = first :: others ∧
      (first :: others).mapM (h.uniqueChain? o) = some (c :: cs) ∧
      Chain.HasLeaf (h.sharedCandidates o first others) (c.meet cs) chain ∧
      h.minimize (first :: others) chain = some m ∧ s = m.render := by
  obtain ⟨first, others, c, cs, hd, hm⟩ := exists_chains_of_commonSelector? hs
  rw [commonSelector?_of_chains hd hm] at hs
  obtain ⟨chain, hw, hs⟩ := Option.bind_eq_some_iff.1 hs
  split at hs
  · obtain ⟨m, hmin, rfl⟩ := Option.map_eq_some_iff.1 hs
    exact ⟨first, others, c, cs, chain, m, hd, hm, hasLeaf_of_withLeaf? hw, hmin, rfl⟩
  · cases hs

end Host

end Pinpoint
