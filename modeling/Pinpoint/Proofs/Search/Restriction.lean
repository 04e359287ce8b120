/-
  Doing without some of the kinds.

  What is left of a search when kinds are taken away is what it does with those that stay, whether
  they are taken away before the candidates are put together or from the candidates made.

  1. Picks: picking among the items kept is keeping the picks that hold no other (`choose_filter`).
     A pick may be of any size that the items kept allow; the larger sizes have no picks to give.
  2. Ranking: of the items kept, none passes another when the rest is left out (`ranked_filter`).
     An item left out may stand right behind a new one; by transitivity what follows it could, too.
  3. Mixes: the groups of fewer kinds are some of the groups, so their mixes are the mixes that use
     only these kinds, in their order.
  4. **The candidates of fewer kinds are those candidates whose mix uses no other kind**
     (`candidates_of_prefix_levels`), and stand in the same order among them.
-/
import Pinpoint.Proofs.Search.Choice

namespace Pinpoint

variable {α β : Type} {p : α → Bool}

/-! ## Picks

  A pick is made item by item, so one that holds an item taken away is made exactly where this item
  is picked. -/

/-- **The picks of the items kept are the picks that hold no other item.** -/
theorem choose_filter (p : α → Bool) (k : Nat) (xs : List α) :
    choose k (xs.filter p) = (choose k xs).filter fun ys => ys.all p := by
  induction xs generalizing k with
  | nil => cases k <;> rfl
  | cons x xs ih =>
    cases k with
    | zero => rw [choose, choose]; rfl
    | succ k =>
      rw [choose, List.filter_append, List.filter_map, ← ih]
      cases hx : p x with
      | true =>
        have hwith : ((fun ys : List α => ys.all p) ∘ fun ys => x :: ys) = fun ys => ys.all p := by
          funext ys
          rw [Function.comp_apply, List.all_cons, hx, Bool.true_and]
        rw [List.filter_cons_of_pos hx, choose, hwith, ← ih]
      | false =>
        have hwith : ((fun ys : List α => ys.all p) ∘ fun ys => x :: ys) = fun _ => false := by
          funext ys
          rw [Function.comp_apply, List.all_cons, hx, Bool.false_and]
        rw [List.filter_cons_of_neg (by rw [hx]; exact Bool.false_ne_true), hwith,
          List.filter_false, List.map_nil, List.nil_append]

/-- There is nothing to pick in sizes beyond the number of items. -/
theorem flatMap_choose_range' (xs : List α) {min a b : Nat} (hab : a ≤ b)
    (hmax : a < b → xs.length < min + a) :
    (List.range' min b).flatMap (choose · xs) = (List.range' min a).flatMap (choose · xs) := by
  obtain ⟨n, rfl⟩ := Nat.exists_eq_add_of_le hab
  have hrest : (List.range' (min + a) n).flatMap (choose · xs) = [] := by
    refine List.flatMap_eq_nil_iff.2 fun k hk => choose_eq_nil ?_
    have hk := List.mem_range'_1.1 hk
    have hlen := hmax (by omega)
    omega
  rw [← List.range'_append_1, List.flatMap_append, hrest, List.append_nil]

/-- **The combinations of the items kept are the combinations that hold no other item.**  With items
    taken away, there are fewer sizes to pick from; for these there is no pick among the items kept
    either way. -/
theorem combinations_filter (p : α → Bool) (xs : List α) (min max : Nat) :
    combinations (xs.filter p) min max =
      (combinations xs min max).filter fun ys => ys.all p := by
  have hle : (xs.filter p).length ≤ xs.length := List.length_filter_le p xs
  have hkept : Nat.min max (xs.filter p).length ≤ (xs.filter p).length := Nat.min_le_right _ _
  have hall : Nat.min max xs.length ≤ max := Nat.min_le_left _ _
  have hmono : Nat.min max (xs.filter p).length ≤ Nat.min max xs.length :=
    Nat.le_min.2 ⟨Nat.min_le_left _ _, hkept.trans hle⟩
  -- sizes are missing only where the items kept are too few for them
  have hfew : Nat.min max (xs.filter p).length < max →
      Nat.min max (xs.filter p).length = (xs.filter p).length := fun hlt =>
    Nat.min_eq_right (Nat.le_of_lt (Nat.lt_of_not_le fun h => hlt.ne (Nat.min_eq_left h)))
  rw [combinations, combinations, List.filter_flatMap]
  simp only [← choose_filter]
  exact (flatMap_choose_range' _ (by omega) fun h => by omega).symm

/-- A bound beyond the number of items bounds nothing. -/
theorem combinations_of_length_le {xs : List α} {min max : Nat} (h : xs.length ≤ max) :
    combinations xs min max = combinations xs min xs.length := by
  have hmax : Nat.min max xs.length = xs.length := Nat.min_eq_right h
  have hself : Nat.min xs.length xs.length = xs.length := Nat.min_self _
  rw [combinations, combinations, hmax, hself]

/-! ## Ranking

  Ranking is stable insertion.  The argument follows one new item through the list, kept and not
  kept. -/

section Ranking

variable [LinearOrder β] {before : α → α → Bool} {f : α → β}

/-- A new item takes the same place among the items kept, if it is kept itself.  The item it is put
    in front of may not be kept; then it stands in front of the next one that is, since that one
    ranks no better. -/
theorem filter_insertRanked {x : α} {xs : List α}
    (hbefore : ∀ y ∈ xs, before x y = true ↔ f x ≤ f y) (h : xs.Pairwise fun y z => f y ≤ f z)
    (p : α → Bool) :
    (insertRanked before x xs).filter p =
      if p x then insertRanked before x (xs.filter p) else xs.filter p := by
  induction xs with
  | nil => cases hx : p x <;> simp [insertRanked, hx]
  | cons y ys ih =>
    obtain ⟨hy, hys⟩ := List.pairwise_cons.1 h
    obtain ⟨hxy, hbefore⟩ := List.forall_mem_cons.1 hbefore
    rw [insertRanked]
    split
    · rename_i htrue
      -- what may stand before `y` may stand before all that follows, whatever is left of it
      have hall : ∀ z ∈ (y :: ys).filter p, before x z = true := by
        intro z hz
        have hz := List.mem_of_mem_filter hz
        rcases List.mem_cons.1 hz with rfl | hz
        · exact htrue
        · exact (hbefore z hz).2 ((hxy.1 htrue).trans (hy z hz))
      rw [insertRanked_of_before hall, List.filter_cons]
    · rename_i hfalse
      have hlater := ih hbefore hys
      cases hpy : p y with
      -- the item passed is not kept, and the new one goes on behind it
      | false => simpa [hpy] using hlater
      | true =>
        rw [List.filter_cons_of_pos hpy, List.filter_cons_of_pos hpy, hlater, insertRanked,
          if_neg hfalse]
        split <;> rfl

/-- **Of the items kept, none passes another** when the rest is left out before they are ranked.
    The order has to come from a rank, and so be total and transitive, or an item left out could
    have kept two others apart. -/
theorem ranked_filter {xs : List α} (hbefore : ∀ x ∈ xs, ∀ y ∈ xs, before x y = true ↔ f x ≤ f y)
    (p : α → Bool) : ranked before (xs.filter p) = (ranked before xs).filter p := by
  induction xs with
  | nil => rfl
  | cons x xs ih =>
    have hlater : ∀ y ∈ xs, ∀ z ∈ xs, before y z = true ↔ f y ≤ f z := fun y hy z hz =>
      hbefore y (List.mem_cons_of_mem _ hy) z (List.mem_cons_of_mem _ hz)
    have hsorted : (ranked before xs).Pairwise fun y z => f y ≤ f z :=
      (pairwise_ranked (R := fun _ _ => True) hlater
        (List.pairwise_of_forall fun _ _ => trivial)).imp
        fun h => h.elim le_of_lt fun heq => heq.1.le
    have hx : ∀ y ∈ ranked before xs, before x y = true ↔ f x ≤ f y := fun y hy =>
      hbefore x List.mem_cons_self y (List.mem_cons_of_mem _ ((perm_ranked before xs).mem_iff.1 hy))
    rw [ranked, filter_insertRanked hx hsorted, List.filter_cons, ← ih hlater]
    cases p x <;> rfl

end Ranking

/-! ## Mixes of fewer kinds

  A group belongs to one kind, and with fewer kinds in use the groups of the others are left out. -/

/-- Are all groups of the mix of these kinds? -/
def Mix.usesOnly (kinds : List Kind) (m : Mix) : Bool := m.all fun g => kinds.contains g.1

/-- The groups of fewer kinds are some of the groups. -/
theorem Tokens.groups_of_subset (t : Tokens) (max : Nat) {few many : List Kind} (h : few ⊆ many) :
    t.groups max few = (t.groups max many).filter fun g => few.contains g.1 := by
  rw [groups, groups, List.filter_filter]
  refine List.filter_congr fun g _ => ?_
  cases hg : few.contains g.1 with
  | false => simp
  | true =>
    have hmany : many.contains g.1 = true :=
      List.contains_iff_mem.2 (h (List.contains_iff_mem.1 hg))
    rw [hmany]
    simp

/-- **The mixes of fewer kinds are the mixes that use only these**, ranked as among the others. -/
theorem Options.rankedMixes_of_subset (o : Options) (t : Tokens) {few many : List Kind}
    (h : few ⊆ many) :
    o.rankedMixes (t.groups o.maxCombination few) =
      (o.rankedMixes (t.groups o.maxCombination many)).filter (Mix.usesOnly few) := by
  rw [t.groups_of_subset o.maxCombination h]
  generalize t.groups o.maxCombination many = groups
  have hne : ∀ m ∈ combinations groups 1 groups.length, m ≠ [] := fun m hm =>
    List.length_pos_iff.1 (mem_combinations_iff.1 hm).2.1
  have hpicks := combinations_filter (fun g : Group => few.contains g.1) groups 1 groups.length
  rw [combinations_of_length_le (List.length_filter_le _ _)] at hpicks
  rw [rankedMixes, rankedMixes, hpicks]
  exact ranked_filter (f := o.meanRank)
    (fun m hm m' hm' => ranksBefore_iff (hne m hm) (hne m' hm')) _

/-! ## Candidates

  A mix has the same compounds on every level.  So keeping mixes is keeping their candidates. -/

namespace Tokens

/-- The candidates, each with the mix it is put together from.  The text of a candidate does not
    tell its kinds, so whether a candidate uses a kind is asked of its mix. -/
def mixedCandidates (t : Tokens) (o : Options) (kinds : List Kind) : List (Mix × String) :=
  (o.rankedMixes (t.groups o.maxCombination kinds)).flatMap fun m =>
    (compounds (m.map (·.2))).map fun s => (m, s)

/-- Without their mixes, these are the candidates. -/
theorem map_snd_mixedCandidates (t : Tokens) (o : Options) (kinds : List Kind) :
    (t.mixedCandidates o kinds).map (·.2) = t.candidates o kinds := by
  rw [mixedCandidates, candidates, List.map_flatMap]
  simp only [List.map_map, Function.comp_def, List.map_id']

/-- With fewer kinds, the candidates put together are those whose mix uses only these. -/
theorem mixedCandidates_of_subset (t : Tokens) (o : Options) {few many : List Kind}
    (h : few ⊆ many) : t.mixedCandidates o few =
      (t.mixedCandidates o many).filter fun c => c.1.usesOnly few := by
  rw [mixedCandidates, mixedCandidates, o.rankedMixes_of_subset t h, List.filter_flatMap]
  generalize o.rankedMixes (t.groups o.maxCombination many) = mixes
  induction mixes with
  | nil => rfl
  | cons m mixes ih =>
    rw [List.flatMap_cons, ← ih, List.filter_map, List.filter_cons]
    cases hm : m.usesOnly few <;> simp [Function.comp_def, hm]

/-- **Going on to a further level only inserts candidates**: those of the first kinds are, in the
    same order, the candidates of all kinds whose mix uses none but the first. -/
theorem candidates_of_prefix_levels (t : Tokens) (o : Options) {few many : List Kind}
    (h : few <+: many) :
    (t.candidates o few).Sublist (t.candidates o many) ∧
    t.candidates o few =
      ((t.mixedCandidates o many).filter fun c => c.1.usesOnly few).map (·.2) ∧
    t.candidates o many = (t.mixedCandidates o many).map (·.2) := by
  have hfew : t.candidates o few =
      ((t.mixedCandidates o many).filter fun c => c.1.usesOnly few).map (·.2) := by
    rw [← t.mixedCandidates_of_subset o h.subset, t.map_snd_mixedCandidates]
  refine ⟨?_, hfew, (t.map_snd_mixedCandidates o many).symm⟩
  rw [hfew, ← t.map_snd_mixedCandidates o many]
  exact List.filter_sublist.map _

/-- An item with an id, a class and a place. -/
def markedItem : Tokens := ⟨some "#i", "li", [".a"], [], some ":first-child"⟩

/-- Ids, classes and tags before places. -/
def placesLast : Options := .withKinds .standard [.id, .className, .tag, .nthChild]

/-- Four mixes with the place rank before the tag alone, and none of them moves another one. -/
theorem candidates_of_prefix_levels_marked_item :
    [Kind.id, .className, .tag] <+: [.id, .className, .tag, .nthChild] ∧
    markedItem.candidates placesLast [.id, .className, .tag] =
      ["#i", "#i.a", ".a", "li#i", "li#i.a", "li.a", "li"] ∧
    ["#i", "#i.a", ".a", "li#i", "li#i.a", "li.a", "li"].Sublist
      ["#i", "#i.a", ".a", "li#i", "li#i.a", "#i.a:first-child", "li.a", "#i:first-child",
       "li#i.a:first-child", "li#i:first-child", "li", ".a:first-child", "li.a:first-child",
       "li:first-child", ":first-child"] := by
  have hlevels : [Kind.id, .className, .tag] <+: [.id, .className, .tag, .nthChild] :=
    ⟨[.nthChild], rfl⟩
  have hfew : markedItem.candidates placesLast [.id, .className, .tag] =
      ["#i", "#i.a", ".a", "li#i", "li#i.a", "li.a", "li"] := by decide +kernel
  have hmany : markedItem.candidates placesLast [.id, .className, .tag, .nthChild] =
      ["#i", "#i.a", ".a", "li#i", "li#i.a", "#i.a:first-child", "li.a", "#i:first-child",
       "li#i.a:first-child", "li#i:first-child", "li", ".a:first-child", "li.a:first-child",
       "li:first-child", ":first-child"] := by decide +kernel
  obtain ⟨hsub, -, -⟩ := candidates_of_prefix_levels markedItem placesLast hlevels
  rw [hfew, hmany] at hsub
  exact ⟨hlevels, hfew, hsub⟩

end Tokens

end Pinpoint
