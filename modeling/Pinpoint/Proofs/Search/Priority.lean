/-
  What is tried first.

  1. Ranking: an item that may stand before all others, and they not before it, comes first
     (`exists_ranked_eq_cons`).
  2. Mixes: **the best ranked group alone is the best mix**, for the mean rank of any other mix is
     larger.
  3. So the candidates begin with the texts of the best ranked group that has any
     (`exists_candidates_eq`), and of joined tokens the single ones come first.
  4. Where ids are the first kind, an id that may be used is tried before anything else.
-/
import Mathlib.Data.List.Nodup
import Pinpoint.Proofs.Search.Candidate
import Pinpoint.Proofs.Search.Description

namespace Pinpoint

/-! ## Ranking

  Of a ranked list only the first item matters here. -/

section Ranking

variable {α : Type} {before : α → α → Bool} {x y : α} {xs : List α}

/-- What may stand before all others is put before them. -/
theorem insertRanked_of_before (h : ∀ z ∈ xs, before x z = true) :
    insertRanked before x xs = x :: xs := by
  cases xs with
  | nil => rfl
  | cons z zs => rw [insertRanked, if_pos (h z List.mem_cons_self)]

/-- **The best item comes first.**  Items that are equal to it in rank could come before it, so the
    others must not be allowed to stand before it. -/
theorem exists_ranked_eq_cons (hx : x ∈ xs) (hbest : ∀ y ∈ xs, before x y = true)
    (hother : ∀ y ∈ xs, y ≠ x → before y x = false) : ∃ rest, ranked before xs = x :: rest := by
  induction xs with
  | nil => cases hx
  | cons y ys ih =>
    obtain ⟨hy, hys⟩ := List.forall_mem_cons.1 hbest
    obtain ⟨hother, hothers⟩ := List.forall_mem_cons.1 hother
    rw [ranked]
    by_cases hyx : y = x
    · subst hyx
      exact ⟨_, insertRanked_of_before fun z hz => hys z ((perm_ranked _ _).mem_iff.1 hz)⟩
    · have hmem := (List.mem_cons.1 hx).resolve_left fun h => hyx h.symm
      obtain ⟨rest, hrest⟩ := ih hmem hys hothers
      rw [hrest, insertRanked, hother hyx]
      exact ⟨_, rfl⟩

end Ranking

/-! ## Mixes

  Mixes are ranked by the mean of the ranks of their kinds.  Means are compared without division, so
  the lemmas are about sums and lengths. -/

namespace Options

variable {o : Options} {m : Mix} {groups : List Group} {g : Group} {n : Nat}

/-- The sum of the ranks, group by group. -/
theorem rankSum_cons (o : Options) (g : Group) (m : Mix) :
    o.rankSum (g :: m) = o.rank g.1 + o.rankSum m := rfl

/-- A mean is no less than what bounds every rank from below. -/
theorem mul_length_le_rankSum (h : ∀ g ∈ m, n ≤ o.rank g.1) : n * m.length ≤ o.rankSum m := by
  induction m with
  | nil => exact Nat.zero_le _
  | cons g m ih =>
    obtain ⟨hg, hm⟩ := List.forall_mem_cons.1 h
    have hlater := ih hm
    rw [rankSum_cons, List.length_cons, Nat.mul_succ]
    omega

/-- One larger rank makes the mean larger. -/
theorem mul_length_lt_rankSum (h : ∀ g ∈ m, n ≤ o.rank g.1) (hg : g ∈ m)
    (hlt : n < o.rank g.1) : n * m.length < o.rankSum m := by
  induction m with
  | nil => cases hg
  | cons g' m ih =>
    obtain ⟨hg', hm⟩ := List.forall_mem_cons.1 h
    rw [rankSum_cons, List.length_cons, Nat.mul_succ]
    rcases List.mem_cons.1 hg with rfl | hg
    · have hlater := mul_length_le_rankSum hm
      omega
    · have hlater := ih hm hg
      omega

/-- A mix that is not the one group alone holds another group. -/
theorem exists_mem_ne_of_ne_singleton (hm : m ∈ combinations groups 1 groups.length)
    (hnd : groups.Nodup) (hne : m ≠ [g]) : ∃ g' ∈ m, g' ≠ g := by
  by_contra hall
  push Not at hall
  obtain ⟨hsub, hlen, -⟩ := mem_combinations_iff.1 hm
  have hnd := hsub.nodup hnd
  match m, hlen, hnd, hall with
  | [g'], _, _, hall => exact hne (by rw [hall g' List.mem_cons_self])
  | g' :: g'' :: later, _, hnd, hall =>
    have heq : g' = g'' := (hall g' (by simp)).trans (hall g'' (by simp)).symm
    exact (List.nodup_cons.1 hnd).1 (heq ▸ List.mem_cons_self)

/-- **The best ranked group alone is the best mix.**  Its mean is its own rank.  Every other mix
    holds a group of a larger rank, and none of a smaller one. -/
theorem exists_rankedMixes_eq (hnd : groups.Nodup) (hg : g ∈ groups)
    (hbest : ∀ g' ∈ groups, g' ≠ g → o.rank g.1 < o.rank g'.1) :
    ∃ rest, o.rankedMixes groups = [g] :: rest := by
  have hle : ∀ m ∈ combinations groups 1 groups.length, ∀ g' ∈ m, o.rank g.1 ≤ o.rank g'.1 := by
    intro m hm g' hg'
    by_cases heq : g' = g
    · exact Nat.le_of_eq (heq ▸ rfl)
    · exact Nat.le_of_lt (hbest g' ((mem_combinations_iff.1 hm).1.subset hg') heq)
  have hsum : o.rankSum [g] = o.rank g.1 := rfl
  have hsingle : [g] ∈ combinations groups 1 groups.length :=
    mem_combinations_iff.2 ⟨List.singleton_sublist.2 hg, Nat.le_refl 1, List.length_pos_of_mem hg⟩
  -- means are compared by products: a sum of ranks with a rank as often as the mix has groups
  refine exists_ranked_eq_cons hsingle (fun m hm => ?_) fun m hm hne => ?_
  · have hmean := mul_length_le_rankSum (hle m hm)
    rw [ranksBefore, decide_eq_true_eq, hsum, List.length_singleton, Nat.mul_one]
    exact hmean
  · obtain ⟨g', hg', hother⟩ := exists_mem_ne_of_ne_singleton hm hnd hne
    have hmean := mul_length_lt_rankSum (hle m hm) hg'
      (hbest g' ((mem_combinations_iff.1 hm).1.subset hg') hother)
    rw [ranksBefore, decide_eq_false_iff_not, hsum, List.length_singleton, Nat.mul_one]
    omega

end Options

/-! ## Candidates

  From mixes to texts. -/

/-- To choose one item is to take each of them alone. -/
theorem choose_one {α : Type} (xs : List α) : choose 1 xs = xs.map fun x => [x] := by
  induction xs with
  | nil => rfl
  | cons x xs ih =>
    rw [choose, ih, choose, List.map_singleton, List.map_cons, List.singleton_append]

/-- **Single tokens come before joined ones.**  Combinations are listed by size, beginning with
    one. -/
theorem exists_joinedCombinations_eq {items : List String} {max : Nat} (hmax : 1 ≤ max) :
    ∃ rest, joinedCombinations items 1 max = items ++ rest := by
  cases items with
  | nil => exact ⟨_, rfl⟩
  | cons item items =>
    obtain ⟨n, hn⟩ : ∃ n, Nat.min max (item :: items).length + 1 - 1 = n + 1 := by
      have hpos : 1 ≤ Nat.min max (item :: items).length :=
        Nat.le_min.2 ⟨hmax, List.length_pos_of_mem List.mem_cons_self⟩
      exact ⟨Nat.min max (item :: items).length - 1, by omega⟩
    have hsingle : ((item :: items).map fun x => [x]).map String.join = item :: items := by
      rw [List.map_map]
      refine (List.map_congr_left fun x _ => ?_).trans (List.map_id _)
      rw [Function.comp_apply, String.join_cons, String.join_nil, String.append_empty, id]
    rw [joinedCombinations, combinations, hn, List.range'_succ, List.flatMap_cons, List.map_append,
      choose_one, hsingle]
    exact ⟨_, rfl⟩

namespace Tokens

variable {t : Tokens} {o : Options} {kinds : List Kind} {g : Group}

/-- There is one group for each kind. -/
theorem nodup_allGroups (t : Tokens) (max : Nat) : ((t.allGroups max).map Prod.fst).Nodup := by
  have hkinds : (t.allGroups max).map Prod.fst =
      [.tag, .id, .className, .attributes, .nthChild] := rfl
  rw [hkinds]
  decide

/-- **The texts of the best ranked group come first.**  No two groups are of one kind, so the groups
    that are left over have larger ranks. -/
theorem exists_candidates_eq (hg : g ∈ t.allGroups o.maxCombination) (hkind : g.1 ∈ kinds)
    (hne : g.2 ≠ []) (hbest : ∀ g' ∈ t.allGroups o.maxCombination, g'.1 ∈ kinds → g'.2 ≠ [] →
      g'.1 ≠ g.1 → o.rank g.1 < o.rank g'.1) :
    ∃ rest, t.candidates o kinds = g.2 ++ rest := by
  have hnd := t.nodup_allGroups o.maxCombination
  have hgroups : (t.groups o.maxCombination kinds).Nodup := hnd.of_map.filter _
  have hfirst : ∀ g' ∈ t.groups o.maxCombination kinds, g' ≠ g → o.rank g.1 < o.rank g'.1 := by
    intro g' hg' hother
    obtain ⟨hmem, hkind', hne'⟩ := mem_groups_iff.1 hg'
    exact hbest g' hmem hkind' hne' fun hfst =>
      hother (List.inj_on_of_nodup_map hnd hmem hg hfst)
  obtain ⟨rest, hrest⟩ :=
    Options.exists_rankedMixes_eq hgroups (mem_groups_iff.2 ⟨hg, hkind, hne⟩) hfirst
  rw [candidates, hrest, List.flatMap_cons]
  exact ⟨_, rfl⟩

end Tokens

/-! ## Ids first

  The usual order of preference. -/

namespace Options

variable {o : Options} {k k' : Kind} {kinds : List Kind}

/-- The first kind has the best rank. -/
theorem rank_lt_of_head (hfirst : o.kinds.head? = some k) (hne : k' ≠ k) : o.rank k < o.rank k' := by
  obtain ⟨later, hkinds⟩ := List.head?_eq_some_iff.1 hfirst
  rw [rank, rank, hkinds, List.idxOf_cons_self, List.idxOf_cons_ne later hne.symm]
  omega

/-- The first kind is in use on every level. -/
theorem mem_of_mem_levels_of_head (hfirst : o.kinds.head? = some k) (h : kinds ∈ o.levels) :
    k ∈ kinds := by
  obtain ⟨later, hkinds⟩ := List.head?_eq_some_iff.1 hfirst
  obtain ⟨n, -, rfl⟩ := List.mem_map.1 h
  rw [hkinds, List.take_succ_cons]
  exact List.mem_cons_self

end Options

/-- **Where ids come first, the id of an element is its first candidate on every level.**  The first
    kind is in use on each of them, and no other has its rank. -/
theorem Host.exists_candidates_of_first_id {E ε : Type} {h : Host E ε} {o : Options} {e : E}
    {kinds : List Kind} {v : String} (hfirst : o.kinds.head? = some .id) (hid : h.id e = some v)
    (hv : o.isUsable v = true) (hkinds : kinds ∈ o.levels) :
    ∃ rest, (h.tokens o e).candidates o kinds = ("#" ++ v) :: rest := by
  have htoken : (h.tokens o e).id = some ("#" ++ v) := by
    rw [tokens, hid, Option.filter_some, if_pos hv, Option.map_some]
  refine Tokens.exists_candidates_eq (g := (.id, ["#" ++ v])) ?_
    (Options.mem_of_mem_levels_of_head hfirst hkinds) (List.cons_ne_nil _ _)
    fun g' _ _ _ hne => Options.rank_lt_of_head hfirst hne
  simp [Tokens.allGroups, htoken]

end Pinpoint
