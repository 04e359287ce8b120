/-
  Going on to further kinds.

  A search that may use more kinds, after the ones it has, goes through the same levels first, and
  nothing on these levels knows of the kinds to come.

  1. Ranking looks at an order on the items alone (`ranked_congr`).
  2. **A level knows only its kinds**: a kind keeps its rank when others are added behind it, so the
     mixes of a level are ranked as before and its candidates are the same
     (`Extends.candidates_eq`).
  3. So a chain found on one of the levels stays the first one found
     (`Extends.resolvingChain?_eq`), and with it the answer.
-/
import Pinpoint.Proofs.Search.Candidate
import Pinpoint.Proofs.Search.Grammar

namespace Pinpoint

/-! ## Ranking

  Items are ranked by inserting them one by one, each before the first one that it does not come
  after.  The order is only ever asked about two items of the list. -/

section Ranking

variable {α : Type} {before before' : α → α → Bool}

/-- A new item is compared with the items of the list alone, so orders that agree on these put it in
    the same place. -/
theorem insertRanked_congr {x : α} {xs : List α} (h : ∀ y ∈ xs, before x y = before' x y) :
    insertRanked before x xs = insertRanked before' x xs := by
  induction xs with
  | nil => rfl
  | cons y ys ih =>
    rw [insertRanked, insertRanked, h y List.mem_cons_self,
      ih fun z hz => h z (List.mem_cons_of_mem _ hz)]

/-- Orders that agree on the items rank them alike. -/
theorem ranked_congr {xs : List α} (h : ∀ x ∈ xs, ∀ y ∈ xs, before x y = before' x y) :
    ranked before xs = ranked before' xs := by
  induction xs with
  | nil => rfl
  | cons x xs ih =>
    rw [ranked, ranked, ih fun y hy z hz => h y (List.mem_cons_of_mem _ hy) z
      (List.mem_cons_of_mem _ hz)]
    refine insertRanked_congr fun y hy => ?_
    exact h x List.mem_cons_self y (List.mem_cons_of_mem _ ((perm_ranked _ _).mem_iff.1 hy))

end Ranking

/-! ## Options with more kinds

  Ranks, mixes and candidates are those of the kinds in use, and a kind behind them is in none of
  their mixes. -/

/-- The same options, with more kinds behind those in use.  All other options are the same ones,
    above all the limit on how many tokens of a kind may be joined. -/
structure Options.Extends (o o' : Options) : Prop where
  kinds : o.kinds <+: o'.kinds
  attributes : o'.attributes = o.attributes
  exclude : o'.exclude = o.exclude
  maxCombination : o'.maxCombination = o.maxCombination

/-- What stands behind a list adds to its distinct items at their end. -/
theorem distinct_append {α : Type} [DecidableEq α] (l l' : List α) :
    distinct (l ++ l') = distinct l ++ (distinct l').filter (· ∉ l) := by
  induction l with
  | nil => simp [distinct]
  | cons x l ih =>
    rw [List.cons_append, distinct, distinct, ih, List.filter_append, List.filter_filter,
      List.cons_append]
    congr 3
    funext y
    simp only [List.mem_cons, not_or, Bool.decide_and]

/-- Kinds named behind others, again or for the first time.  A kind that is named again adds
    nothing, so behind those in use stand the new ones alone. -/
theorem Options.extends_withKinds (o : Options) {l l' : List Kind} (h : l <+: l') :
    (o.withKinds l).Extends (o.withKinds l') := by
  obtain ⟨more, rfl⟩ := h
  have hkinds : distinct l <+: distinct (l ++ more) := by
    rw [distinct_append]
    exact List.prefix_append _ _
  exact ⟨hkinds, rfl, rfl, rfl⟩

namespace Options.Extends

variable {o o' : Options} {kinds : List Kind}

/-- A kind in use keeps its rank.  This is its place in the list of kinds, and what is added comes
    after it. -/
theorem rank_eq (h : o.Extends o') {k : Kind} (hk : k ∈ o.kinds) : o'.rank k = o.rank k := by
  obtain ⟨more, hmore⟩ := h.kinds
  rw [rank, rank, ← hmore, List.idxOf_append_of_mem hk]

/-- A mix of kinds in use weighs what it weighed. -/
theorem rankSum_eq (h : o.Extends o') {m : Mix} (hm : ∀ g ∈ m, g.1 ∈ o.kinds) :
    o'.rankSum m = o.rankSum m := by
  induction m with
  | nil => rfl
  | cons g m ih =>
    have hlater := ih fun g' hg' => hm g' (List.mem_cons_of_mem _ hg')
    rw [rankSum, rankSum, List.foldr_cons, List.foldr_cons]
    rw [rankSum, rankSum] at hlater
    rw [hlater, h.rank_eq (hm g List.mem_cons_self)]

/-- Mixes of kinds in use are ranked as they were. -/
theorem rankedMixes_eq (h : o.Extends o') {groups : List Group}
    (hgroups : ∀ g ∈ groups, g.1 ∈ o.kinds) : o'.rankedMixes groups = o.rankedMixes groups := by
  have hsum : ∀ m ∈ combinations groups 1 groups.length, o'.rankSum m = o.rankSum m :=
    fun m hm => h.rankSum_eq fun g hg => hgroups g ((mem_combinations_iff.1 hm).1.subset hg)
  refine ranked_congr fun a ha b hb => ?_
  rw [ranksBefore, ranksBefore, hsum a ha, hsum b hb]

/-- **The candidates of a level are the same.** -/
theorem candidates_eq (h : o.Extends o') (hkinds : ∀ k ∈ kinds, k ∈ o.kinds) (t : Tokens) :
    t.candidates o' kinds = t.candidates o kinds := by
  rw [Tokens.candidates, Tokens.candidates, h.maxCombination, h.rankedMixes_eq]
  exact fun g hg => hkinds g.1 (Tokens.mem_groups_iff.1 hg).2.1

/-- The levels go on where they ended: the first level has the first kind, and each further one has
    one kind more, so the old levels come first and are none other than they were. -/
theorem levels_prefix (h : o.Extends o') : o.levels <+: o'.levels := by
  obtain ⟨more, hmore⟩ := h.kinds
  have htake : ∀ n ∈ List.range o.kinds.length,
      o.kinds.take (n + 1) = o'.kinds.take (n + 1) := by
    intro n hn
    rw [← hmore, List.take_append_of_le_length (List.mem_range.1 hn)]
  have hrange : List.range o.kinds.length <+: List.range o'.kinds.length := by
    rw [← hmore, List.length_append, List.range_add]
    exact List.prefix_append _ _
  rw [levels, levels, List.map_congr_left htake]
  exact hrange.map _

/-! ## The search

  A search takes the first level that resolves.  With more kinds it tries the same levels in the
  same order and comes to the same one, before any of the new ones is tried. -/

variable {E ε : Type} (h : o.Extends o') (host : Host E ε)
include h

/-- Tokens have nothing to do with kinds. -/
theorem tokens_eq (e : E) : host.tokens o' e = host.tokens o e := by
  have husable : o'.isUsable = o.isUsable := by
    funext v
    rw [isUsable, isUsable, isExcluded, isExcluded, h.exclude]
  rw [Host.tokens, Host.tokens, husable, h.attributes]

variable [DecidableEq E]

/-- **A level gives the same chain**, and it resolves as before.  The segments are chosen among the
    same candidates, and whether a chain resolves has nothing to do with the options. -/
theorem resolvingChain?_eq (hkinds : ∀ k ∈ kinds, k ∈ o.kinds) (e : E) :
    host.resolvingChain? o' e (host.tokenLineage o' e) kinds =
      host.resolvingChain? o e (host.tokenLineage o e) kinds := by
  have hlineage : host.tokenLineage o' e = host.tokenLineage o e := by
    rw [Host.tokenLineage, Host.tokenLineage]
    exact List.map_congr_left fun a _ => by rw [h.tokens_eq host]
  have hsegment : ∀ a t, host.segment? o' kinds a t = host.segment? o kinds a t := by
    intro a t
    rw [Host.segment?, Host.segment?, h.candidates_eq hkinds]
  rw [Host.resolvingChain?, Host.resolvingChain?, Host.chainAt?, Host.chainAt?, hlineage]
  simp only [hsegment]

/-- The first level that resolves is the first one still. -/
theorem uniqueChain?_eq_some {e : E} {c : Chain} (hc : host.uniqueChain? o e = some c) :
    host.uniqueChain? o' e = some c := by
  obtain ⟨more, hmore⟩ := h.levels_prefix
  obtain ⟨earlier, kinds, later, hlevels, hk, hnone⟩ := List.findSome?_eq_some_iff.1 hc
  have hlevel : ∀ kinds ∈ o.levels,
      host.resolvingChain? o' e (host.tokenLineage o' e) kinds =
        host.resolvingChain? o e (host.tokenLineage o e) kinds :=
    fun kinds hk => h.resolvingChain?_eq host (Host.mem_kinds_of_mem_levels hk) e
  -- the same level is the first one: the levels before it resolve no more than they did
  refine List.findSome?_eq_some_iff.2 ⟨earlier, kinds, later ++ more, ?_, ?_, fun ks hks => ?_⟩
  · rw [← hmore, hlevels, List.append_assoc, List.cons_append]
  · rw [hlevel kinds (by rw [hlevels]; simp)]
    exact hk
  · rw [hlevel ks (by rw [hlevels]; simp [hks])]
    exact hnone ks hks

end Options.Extends

namespace Host

variable {E ε : Type} [DecidableEq E]

/-- **More kinds behind those in use change no answer**: the chain that was found is found, and the
    selector that was answered is answered.  Only where there was none may there be one now. -/
theorem answer_of_extends (h : Host E ε) (o o' : Options) (hext : o.Extends o') (e : E) :
    (∀ c, h.uniqueChain? o e = some c → h.uniqueChain? o' e = some c) ∧
    ∀ s, h.shortestSelector? o e = some s → h.shortestSelector? o' e = some s := by
  refine ⟨fun c hc => hext.uniqueChain?_eq_some h hc, fun s hs => ?_⟩
  rw [shortestSelector?_eq_map] at hs ⊢
  obtain ⟨c, hc, rfl⟩ := Option.map_eq_some_iff.1 hs
  rw [hext.uniqueChain?_eq_some h hc, Option.map_some]

/-- The marked item has its answer from tags and classes, and keeps it when places may be used, too;
    the item before it gets one only then. -/
theorem answer_of_extends_marked_item :
    (Options.standard.withKinds [.tag, .className]).Extends
      (.withKinds .standard [.tag, .className, .tag, .nthChild]) ∧
    markedList.host.uniqueChain? (.withKinds .standard [.tag, .className]) 3 =
      some ⟨[some "ul", some "li.on"]⟩ ∧
    markedList.host.uniqueChain? (.withKinds .standard [.tag, .className, .tag, .nthChild]) 3 =
      some ⟨[some "ul", some "li.on"]⟩ ∧
    markedList.host.shortestSelector? (.withKinds .standard [.tag, .className, .tag, .nthChild]) 3 =
      some "li.on" ∧
    markedList.host.shortestSelector? (.withKinds .standard [.tag, .className]) 2 = none ∧
    markedList.host.shortestSelector? (.withKinds .standard [.tag, .className, .tag, .nthChild]) 2 =
      some "li:first-child" := by
  have hext : (Options.standard.withKinds [.tag, .className]).Extends
      (.withKinds .standard [.tag, .className, .tag, .nthChild]) :=
    Options.standard.extends_withKinds ⟨[.tag, .nthChild], rfl⟩
  have hc : markedList.host.uniqueChain? (.withKinds .standard [.tag, .className]) 3 =
      some ⟨[some "ul", some "li.on"]⟩ := by decide +kernel
  have hs : markedList.host.shortestSelector? (.withKinds .standard [.tag, .className]) 3 =
      some "li.on" := by decide +kernel
  obtain ⟨hchain, hanswer⟩ := answer_of_extends markedList.host _ _ hext 3
  exact ⟨hext, hc, hchain _ hc, hanswer _ hs, by decide +kernel, by decide +kernel⟩

end Host

end Pinpoint
