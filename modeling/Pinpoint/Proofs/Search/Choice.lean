/-
  The candidates of an element as choices in order.

  A candidate takes at most one text from each group.  Which ones it takes is a choice, and the
  choices have an order of their own, whatever the texts are: two candidates may be written alike,
  two choices are never the same.

  1. Choices, what is written for one, and which of two comes first (`Precedes`).
  2. Ranking keeps the order of what it finds equal (`pairwise_ranked`).
  3. One text from each group of a mix: the last group in which two choices differ decides between
     them (`pairwise_picks`).
  4. The mixes in their order, each with its choices: all choices, each once, in order, as many as
     the sizes of the groups say.
  5. **The candidates are what is written for the choices, in their order**
     (`leafCandidates_eq_map_text`).
-/
import Mathlib.Algebra.Order.Field.Rat
import Pinpoint.Proofs.Search.Priority

namespace Pinpoint

variable {α β : Type}

/-! ## Choices

  A choice is known by numbers, so that two choices are equal only if they take the same texts of
  the same groups. -/

/-- Some of the groups by their numbers, and with each the number of one of its texts. -/
abbrev Choice := List (Nat × Nat)

namespace Choice

/-- A choice from these groups: some of them, in their order, and a text of each.  Groups without
    texts can have a number here, but no choice takes them. -/
structure IsFrom (groups : List Group) (c : Choice) : Prop where
  ne_nil : c ≠ []
  inOrder : c.Pairwise fun p q => p.1 < q.1
  texts : ∀ p ∈ c, ∃ g, groups[p.1]? = some g ∧ p.2 < g.2.length

/-- What is written for a choice: its texts, one after the other. -/
def text (groups : List Group) (c : Choice) : String :=
  String.join (c.map fun p => ((groups[p.1]?).bind fun g => g.2[p.2]?).getD "")

/-- The mean place of the kinds in the order of preference, counted from one. -/
def meanRank (o : Options) (groups : List Group) (c : Choice) : ℚ :=
  ((c.map fun p => ((groups[p.1]?).map fun g => o.rank g.1).getD 0).sum : ℕ) / (c.length : ℚ)

/-- Which of two choices comes first: the one whose kinds are preferred in the mean, or else the one
    of fewer kinds, or else the one whose groups come first in the order of a dictionary.  Of two
    choices from the same groups, the last text in which they differ decides. -/
def Precedes (o : Options) (groups : List Group) (a b : Choice) : Prop :=
  a.meanRank o groups < b.meanRank o groups ∨ a.meanRank o groups = b.meanRank o groups ∧
    (a.length < b.length ∨ a.length = b.length ∧
      (a.map Prod.fst < b.map Prod.fst ∨ a.map Prod.fst = b.map Prod.fst ∧
        (a.map Prod.snd).reverse < (b.map Prod.snd).reverse))

/-- No choice comes before itself, so choices that are in order are all different. -/
theorem not_precedes_self (o : Options) (groups : List Group) (c : Choice) :
    ¬ c.Precedes o groups c := by
  simp [Precedes]

example :
    text [(.tag, ["li"]), (.id, ["#a"]), (.className, [".b", ".c", ".b.c"])] [(0, 0), (2, 2)] =
      "li.b.c" := by decide

end Choice

/-! ## Ranking

  Ranking inserts item by item into a list that is ranked already.  An item is put before others of
  its rank, which all came behind it in the list at the start. -/

section Ranking

variable [LinearOrder β] {before : α → α → Bool} {f : α → β} {R : α → α → Prop}

/-- Ranked by `f`, and by `R` where `f` is the same. -/
def RankedBy (f : α → β) (R : α → α → Prop) (x y : α) : Prop := f x < f y ∨ f x = f y ∧ R x y

/-- Inserting keeps the order.  The new item goes before the first that it is not ranked behind, and
    so before all of its own rank. -/
theorem pairwise_insertRanked {x : α} {xs : List α}
    (hbefore : ∀ y ∈ xs, before x y = true ↔ f x ≤ f y) (hx : ∀ y ∈ xs, R x y)
    (h : xs.Pairwise (RankedBy f R)) : (insertRanked before x xs).Pairwise (RankedBy f R) := by
  induction xs with
  | nil => exact List.pairwise_singleton _ _
  | cons y ys ih =>
    obtain ⟨hy, hys⟩ := List.pairwise_cons.1 h
    rw [insertRanked]
    split
    · rename_i hxy
      have hle : f x ≤ f y := (hbefore y List.mem_cons_self).1 hxy
      refine List.pairwise_cons.2 ⟨fun z hz => ?_, h⟩
      have hlez : f x ≤ f z := by
        rcases List.mem_cons.1 hz with rfl | hz
        · exact hle
        · exact hle.trans ((hy z hz).elim le_of_lt fun heq => heq.1.le)
      exact hlez.lt_or_eq.imp_right fun heq => ⟨heq, hx z hz⟩
    · rename_i hxy
      -- the new item is ranked strictly behind `y`, so it may stand anywhere further on
      have hlt : f y < f x := lt_of_not_ge fun hle => hxy ((hbefore y List.mem_cons_self).2 hle)
      have hlater := ih (fun z hz => hbefore z (List.mem_cons_of_mem _ hz))
        (fun z hz => hx z (List.mem_cons_of_mem _ hz)) hys
      refine List.pairwise_cons.2 ⟨fun z hz => ?_, hlater⟩
      rcases List.mem_cons.1 ((perm_insertRanked before x ys).mem_iff.1 hz) with rfl | hz
      · exact Or.inl hlt
      · exact hy z hz

/-- **Ranking by `f` keeps the order of what `f` does not tell apart.**  The comparison is only
    asked to be one by `f` among the items of the list; of anything else it may say what it
    likes. -/
theorem pairwise_ranked {xs : List α}
    (hbefore : ∀ x ∈ xs, ∀ y ∈ xs, before x y = true ↔ f x ≤ f y) (h : xs.Pairwise R) :
    (ranked before xs).Pairwise (RankedBy f R) := by
  induction xs with
  | nil => exact List.Pairwise.nil
  | cons x xs ih =>
    obtain ⟨hx, hxs⟩ := List.pairwise_cons.1 h
    have hlater := ih (fun y hy z hz =>
      hbefore y (List.mem_cons_of_mem _ hy) z (List.mem_cons_of_mem _ hz)) hxs
    have hmem : ∀ y ∈ ranked before xs, y ∈ xs := fun y hy => (perm_ranked before xs).mem_iff.1 hy
    exact pairwise_insertRanked
      (fun y hy => hbefore x List.mem_cons_self y (List.mem_cons_of_mem _ (hmem y hy)))
      (fun y hy => hx y (hmem y hy)) hlater

omit [LinearOrder β] in
/-- Items of another kind are ranked in the same way. -/
theorem ranked_map (before : β → β → Bool) (f : α → β) (xs : List α) :
    ranked before (xs.map f) = (ranked (fun x y => before (f x) (f y)) xs).map f := by
  have hinsert : ∀ (x : α) (ys : List α), insertRanked before (f x) (ys.map f) =
      (insertRanked (fun x y => before (f x) (f y)) x ys).map f := by
    intro x ys
    induction ys with
    | nil => rfl
    | cons y ys ih =>
      rw [List.map_cons, insertRanked, insertRanked, ih]
      split <;> rfl
  induction xs with
  | nil => rfl
  | cons x xs ih => rw [List.map_cons, ranked, ranked, ih, hinsert]

end Ranking

/-! ## One text from each list

  The order of the picks, whatever is picked. -/

/-- In the order of a dictionary, what stands behind two lists of one length does not count. -/
theorem append_lt_append {a b : List Nat} (hlen : a.length = b.length) (h : a < b)
    (u v : List Nat) : a ++ u < b ++ v := by
  induction a generalizing b with
  | nil =>
    obtain rfl : b = [] := List.length_eq_zero_iff.1 hlen.symm
    exact absurd h (List.lt_irrefl [])
  | cons x a ih =>
    obtain ⟨y, b, rfl⟩ := List.exists_cons_of_length_eq_add_one hlen.symm
    rw [List.cons_lt_cons_iff] at h
    rw [List.cons_append, List.cons_append, List.cons_lt_cons_iff]
    exact h.imp_right fun hlater => ⟨hlater.1, ih (Nat.succ.inj hlen) hlater.2⟩

/-- A pick has one item of each list. -/
theorem length_of_mem_picks {lists : List (List α)} {p : List α} (h : p ∈ picks lists) :
    p.length = lists.length := (mem_picks_iff.1 h).length_eq.symm

/-- **The last item in which two picks differ decides between them**, where the lists are in the
    order of `f`.  Read from the end, the picks are in the order of a dictionary: the later lists
    change slowest. -/
theorem pairwise_picks {f : α → Nat} {lists : List (List α)}
    (h : ∀ items ∈ lists, items.Pairwise fun x y => f x < f y) :
    (picks lists).Pairwise fun p q => (p.map f).reverse < (q.map f).reverse := by
  induction lists with
  | nil => exact List.pairwise_singleton _ _
  | cons items later ih =>
    obtain ⟨hitems, hlater⟩ := List.forall_mem_cons.1 h
    rw [picks, List.pairwise_flatMap]
    refine ⟨fun rest _ => ?_, (ih hlater).imp_of_mem fun {p q} hp hq hpq => ?_⟩
    · rw [List.pairwise_map]
      refine hitems.imp fun hxy => ?_
      rw [List.map_cons, List.map_cons, List.reverse_cons, List.reverse_cons]
      exact List.append_left_lt (List.cons_lt_cons_iff.2 (Or.inl hxy))
    · intro p' hp' q' hq'
      obtain ⟨x, -, rfl⟩ := List.mem_map.1 hp'
      obtain ⟨y, -, rfl⟩ := List.mem_map.1 hq'
      rw [List.map_cons, List.map_cons, List.reverse_cons, List.reverse_cons]
      refine append_lt_append ?_ hpq _ _
      simp only [List.length_reverse, List.length_map, length_of_mem_picks hp,
        length_of_mem_picks hq]

/-- There are as many picks as the product of the sizes says. -/
theorem length_picks (lists : List (List α)) :
    (picks lists).length = (lists.map List.length).prod := by
  induction lists with
  | nil => rfl
  | cons items later ih =>
    rw [picks, List.length_flatMap]
    simp [ih, Nat.mul_comm]

/-- Picking and then changing the items is picking from changed items. -/
theorem picks_map (f : α → β) (lists : List (List α)) :
    picks (lists.map (List.map f)) = (picks lists).map (List.map f) := by
  induction lists with
  | nil => rfl
  | cons items later ih =>
    rw [List.map_cons, picks, picks, ih, List.flatMap_map, List.map_flatMap]
    simp only [List.map_map, Function.comp_def, List.map_cons]

/-! ## Mixes of numbered groups

  A mix is a list of groups and does not say which groups they are.  With numbers it does, and
  everything else stays as it was. -/

/-- A group and its number. -/
abbrev Numbered := Group × Nat

/-- The texts of a group, by the number of the group and their own. -/
def Numbered.entries (g : Numbered) : List (Nat × Nat) :=
  (List.range g.1.2.length).map fun j => (g.2, j)

/-- An entry of a group has the number of the group, and the number of a text of it. -/
theorem Numbered.mem_entries_iff {g : Numbered} {p : Nat × Nat} :
    p ∈ g.entries ↔ p.1 = g.2 ∧ p.2 < g.1.2.length := by
  rw [entries, List.mem_map]
  constructor
  · rintro ⟨j, hj, rfl⟩
    exact ⟨rfl, List.mem_range.1 hj⟩
  · rintro ⟨hfst, hsnd⟩
    exact ⟨p.2, List.mem_range.2 hsnd, Prod.ext hfst.symm rfl⟩

namespace Options

/-- The mean rank of the kinds in a mix. -/
def meanRank (o : Options) (m : Mix) : ℚ := o.rankSum m / m.length

/-- Without division, the means are compared as with it.  The program multiplies each sum with the
    other length; the order of choices is said with means. -/
theorem ranksBefore_iff {o : Options} {a b : Mix} (ha : a ≠ []) (hb : b ≠ []) :
    o.ranksBefore a b = true ↔ o.meanRank a ≤ o.meanRank b := by
  have hlena : (0 : ℚ) < a.length := Nat.cast_pos.2 (List.length_pos_iff.2 ha)
  have hlenb : (0 : ℚ) < b.length := Nat.cast_pos.2 (List.length_pos_iff.2 hb)
  rw [ranksBefore, decide_eq_true_eq, meanRank, meanRank, div_le_div_iff₀ hlena hlenb]
  norm_cast

/-- The sum of the ranks, as a sum. -/
theorem rankSum_eq_sum (o : Options) (m : Mix) : o.rankSum m = (m.map fun g => o.rank g.1).sum := by
  induction m with
  | nil => rfl
  | cons g m ih => rw [rankSum_cons, ih, List.map_cons, List.sum_cons]

/-- The mixes of numbered groups, the best ranked first.  Groups may be equal, and their numbers
    keep them apart. -/
def numberedMixes (o : Options) (groups : List Group) : List (List Numbered) :=
  ranked (fun m m' => o.ranksBefore (m.map Prod.fst) (m'.map Prod.fst))
    (combinations groups.zipIdx 1 groups.length)

/-- All choices: the mixes in their order, and of each the choices from its groups. -/
def choices (o : Options) (groups : List Group) : List Choice :=
  (o.numberedMixes groups).flatMap fun m => picks (m.map Numbered.entries)

variable {o : Options} {groups : List Group} {m : List Numbered} {c : Choice}

/-- Numbers change nothing in the order of the mixes. -/
theorem rankedMixes_eq_map (o : Options) (groups : List Group) :
    o.rankedMixes groups = (o.numberedMixes groups).map (List.map Prod.fst) := by
  have hmap := ranked_map o.ranksBefore (List.map Prod.fst)
    (combinations groups.zipIdx 1 groups.length)
  rw [← combinations_map, List.zipIdx_map_fst] at hmap
  exact hmap

/-- The numbered mixes are the sublists of the numbered groups that are not empty. -/
theorem mem_numberedMixes_iff :
    m ∈ o.numberedMixes groups ↔ m.Sublist groups.zipIdx ∧ m ≠ [] := by
  rw [numberedMixes, (perm_ranked _ _).mem_iff, mem_combinations_iff]
  refine and_congr_right fun hm => ?_
  have hle := hm.length_le
  rw [List.length_zipIdx] at hle
  rw [and_iff_left hle]
  exact List.length_pos_iff

/-- The groups are numbered in their order. -/
theorem pairwise_zipIdx (groups : List Group) :
    groups.zipIdx.Pairwise fun g g' => g.2 < g'.2 := by
  rw [← List.pairwise_map (f := Prod.snd) (R := (· < ·)), List.zipIdx_map_snd]
  exact List.pairwise_lt_range' 1

/-- **The mixes are ranked by their mean rank**, then by size, then by the numbers of their
    groups. -/
theorem pairwise_numberedMixes (o : Options) (groups : List Group) :
    (o.numberedMixes groups).Pairwise (RankedBy (fun m => o.meanRank (m.map Prod.fst)) fun m m' =>
      m.length < m'.length ∨ m.length = m'.length ∧ m.map Prod.snd < m'.map Prod.snd) := by
  have hne : ∀ m ∈ combinations groups.zipIdx 1 groups.length, m.map Prod.fst ≠ [] := by
    intro m hm
    have hpos := (mem_combinations_iff.1 hm).2.1
    exact mt List.map_eq_nil_iff.1 (List.length_pos_iff.1 hpos)
  exact pairwise_ranked (fun m hm m' hm' => ranksBefore_iff (hne m hm) (hne m' hm'))
    (pairwise_combinations (pairwise_zipIdx groups) 1 groups.length)

/-! ## The choices from a mix

  One mix fixes the groups of a choice, and with them all that its rank depends on. -/

/-- Of two lists that correspond, an item of the second has a partner in the first. -/
theorem exists_of_mem_of_forall₂ {R : α → β → Prop} {xs : List α} {ys : List β}
    (h : List.Forall₂ R xs ys) {y : β} (hy : y ∈ ys) : ∃ x ∈ xs, R x y := by
  induction h with
  | nil => exact absurd hy List.not_mem_nil
  | cons hxy _ ih =>
    rcases List.mem_cons.1 hy with rfl | hy
    · exact ⟨_, List.mem_cons_self, hxy⟩
    · obtain ⟨x, hx, hxy⟩ := ih hy
      exact ⟨x, List.mem_cons_of_mem _ hx, hxy⟩

/-- A choice from a mix has the numbers of its groups, and so their mean rank. -/
theorem profile_of_mem_picks (hm : m.Sublist groups.zipIdx)
    (hc : c ∈ picks (m.map Numbered.entries)) :
    c.map Prod.fst = m.map Prod.snd ∧ c.meanRank o groups = o.meanRank (m.map Prod.fst) := by
  rw [mem_picks_iff, List.forall₂_map_left_iff] at hc
  have hnumbers : c.map Prod.fst = m.map Prod.snd := by
    clear hm
    induction hc with
    | nil => rfl
    | cons hp _ ih => rw [List.map_cons, List.map_cons, ih, (Numbered.mem_entries_iff.1 hp).1]
  have hranks : (c.map fun p => ((groups[p.1]?).map fun g => o.rank g.1).getD 0) =
      (m.map Prod.fst).map fun g => o.rank g.1 := by
    calc c.map (fun p => ((groups[p.1]?).map fun g => o.rank g.1).getD 0)
        = (c.map Prod.fst).map fun i => ((groups[i]?).map fun g => o.rank g.1).getD 0 := by
          rw [List.map_map]; rfl
      _ = (m.map Prod.snd).map fun i => ((groups[i]?).map fun g => o.rank g.1).getD 0 := by
          rw [hnumbers]
      _ = (m.map Prod.fst).map fun g => o.rank g.1 := by
          rw [List.map_map, List.map_map]
          refine List.map_congr_left fun g hg => ?_
          rw [Function.comp_apply, List.mem_zipIdx_iff_getElem?.1 (hm.subset hg)]
          rfl
  refine ⟨hnumbers, ?_⟩
  rw [Choice.meanRank, meanRank, hranks, ← rankSum_eq_sum, List.length_map, hc.length_eq]

/-- **The choices from all mixes are all choices.**  A choice names its groups, and so its mix; the
    sublist is the one with these numbers. -/
theorem mem_choices_iff : c ∈ o.choices groups ↔ c.IsFrom groups := by
  rw [choices, List.mem_flatMap]
  constructor
  · rintro ⟨m, hm, hc⟩
    obtain ⟨hsub, hne⟩ := mem_numberedMixes_iff.1 hm
    have hnumbers := (profile_of_mem_picks (o := o) hsub hc).1
    rw [mem_picks_iff, List.forall₂_map_left_iff] at hc
    refine ⟨?_, ?_, fun p hp => ?_⟩
    · rintro rfl
      exact hne (List.length_eq_zero_iff.1 hc.length_eq)
    · rw [← List.pairwise_map (f := Prod.fst) (R := (· < ·)), hnumbers, List.pairwise_map]
      exact (pairwise_zipIdx groups).sublist hsub
    · obtain ⟨g, hg, hpg⟩ := exists_of_mem_of_forall₂ hc hp
      obtain ⟨hnumber, hlt⟩ := Numbered.mem_entries_iff.1 hpg
      rw [hnumber]
      exact ⟨g.1, List.mem_zipIdx_iff_getElem?.1 (hsub.subset hg), hlt⟩
  · intro hc
    -- The mix of a choice has the groups that the choice names.
    let named : Nat × Nat → Numbered := fun p => ((groups[p.1]?).getD (.tag, []), p.1)
    have hnamed : ∀ p ∈ c, named p ∈ groups.zipIdx ∧ p ∈ (named p).entries := by
      intro p hp
      obtain ⟨g, hg, hlt⟩ := hc.texts p hp
      have heq : named p = (g, p.1) := by simp only [named, hg, Option.getD_some]
      rw [heq]
      exact ⟨List.mem_zipIdx_iff_getElem?.2 hg, Numbered.mem_entries_iff.2 ⟨rfl, hlt⟩⟩
    have hinOrder : (c.map named).Pairwise fun g g' => g.2 < g'.2 := List.pairwise_map.2 hc.inOrder
    have hsubset : c.map named ⊆ groups.zipIdx := List.forall_mem_map.2 fun p hp => (hnamed p hp).1
    refine ⟨c.map named, mem_numberedMixes_iff.2 ⟨?_, mt List.map_eq_nil_iff.1 hc.ne_nil⟩, ?_⟩
    · exact sublist_of_increasing hinOrder (pairwise_zipIdx groups) hsubset
    · rw [mem_picks_iff, List.map_map, List.forall₂_map_left_iff, List.forall₂_same]
      exact fun p hp => (hnamed p hp).2

/-- **The choices are in order.**  Two choices from one mix are compared by their texts, and two
    from different mixes by their mixes. -/
theorem pairwise_choices (o : Options) (groups : List Group) :
    (o.choices groups).Pairwise (Choice.Precedes o groups) := by
  rw [choices, List.pairwise_flatMap]
  refine ⟨fun m hm => ?_, (pairwise_numberedMixes o groups).imp_of_mem fun {m m'} hm hm' hlt => ?_⟩
  · have hentries : ∀ items ∈ m.map Numbered.entries, items.Pairwise fun p q => p.2 < q.2 := by
      intro items hitems
      obtain ⟨g, -, rfl⟩ := List.mem_map.1 hitems
      rw [Numbered.entries, List.pairwise_map]
      exact List.pairwise_lt_range
    -- one mix: rank, size and groups are the same, and the texts decide
    have hsub := (mem_numberedMixes_iff.1 hm).1
    refine (pairwise_picks hentries).imp_of_mem fun {a b} ha hb hlt => ?_
    obtain ⟨hnumbers, hmean⟩ := profile_of_mem_picks (o := o) hsub ha
    obtain ⟨hnumbers', hmean'⟩ := profile_of_mem_picks (o := o) hsub hb
    have hlen : a.length = b.length := by rw [length_of_mem_picks ha, length_of_mem_picks hb]
    exact Or.inr ⟨hmean.trans hmean'.symm,
      Or.inr ⟨hlen, Or.inr ⟨hnumbers.trans hnumbers'.symm, hlt⟩⟩⟩
  · intro a ha b hb
    obtain ⟨hnumbers, hmean⟩ := profile_of_mem_picks (o := o) (mem_numberedMixes_iff.1 hm).1 ha
    obtain ⟨hnumbers', hmean'⟩ := profile_of_mem_picks (o := o) (mem_numberedMixes_iff.1 hm').1 hb
    have hlen : a.length = m.length := by rw [length_of_mem_picks ha, List.length_map]
    have hlen' : b.length = m'.length := by rw [length_of_mem_picks hb, List.length_map]
    rw [Choice.Precedes, hmean, hmean', hlen, hlen', hnumbers, hnumbers']
    exact hlt.imp_right fun heq => ⟨heq.1, heq.2.imp_right fun h => ⟨h.1, Or.inl h.2⟩⟩

/-- **There are as many choices as the sizes of the groups say**: each group may be left out, but
    not all of them.  The one that is added on the left stands for leaving all of them out. -/
theorem length_choices (o : Options) (groups : List Group) :
    (o.choices groups).length + 1 = (groups.map fun g => 1 + g.2.length).prod := by
  have hlen : ∀ m : List Numbered, (picks (m.map Numbered.entries)).length =
      (m.map fun g => g.1.2.length).prod := by
    intro m
    rw [length_picks, List.map_map]
    refine congrArg _ (List.map_congr_left fun g _ => ?_)
    rw [Function.comp_apply, Numbered.entries, List.length_map, List.length_range]
  have hsum := sum_combinations (fun g : Numbered => g.1.2.length) groups.zipIdx
  rw [List.length_zipIdx] at hsum
  have hgroups : groups.zipIdx.map (fun g => 1 + g.1.2.length) =
      groups.map fun g => 1 + g.2.length := by
    conv_rhs => rw [← List.zipIdx_map_fst 0 groups, List.map_map]
    rfl
  rw [choices, List.length_flatMap, ← hgroups, ← hsum]
  simp only [hlen]
  rw [numberedMixes, ((perm_ranked _ _).map _).sum_eq]

end Options

/-! ## What is written

  From numbers back to texts. -/

/-- The texts that the entries of a group stand for are the texts of the group. -/
theorem Numbered.map_text_entries {g : Numbered} {groups : List Group} (hg : g ∈ groups.zipIdx) :
    g.entries.map (fun p => ((groups[p.1]?).bind fun g => g.2[p.2]?).getD "") = g.1.2 := by
  rw [entries, List.map_map]
  refine List.ext_getElem (by simp) fun j hj hj' => ?_
  simp [List.mem_zipIdx_iff_getElem?.1 hg, hj']

namespace Tokens

variable {t : Tokens} {o : Options} {kinds : List Kind}

/-- **The candidates are what is written for the choices.**  Each list of texts is the list of what
    its entries stand for, so picking texts is picking entries. -/
theorem candidates_eq_map_text (t : Tokens) (o : Options) (kinds : List Kind) :
    t.candidates o kinds = (o.choices (t.groups o.maxCombination kinds)).map
      (Choice.text (t.groups o.maxCombination kinds)) := by
  have hne : ∀ g ∈ t.groups o.maxCombination kinds, g.2 ≠ [] :=
    fun g hg => (mem_groups_iff.1 hg).2.2
  generalize hgroups : t.groups o.maxCombination kinds = groups at hne
  rw [candidates, hgroups, Options.rankedMixes_eq_map, Options.choices, List.flatMap_map,
    List.map_flatMap]
  refine List.flatMap_congr fun m hm => ?_
  obtain ⟨hsub, hmne⟩ := Options.mem_numberedMixes_iff.1 hm
  have htexts : (m.map Prod.fst).map (fun g => g.2) = (m.map Numbered.entries).map
      (List.map fun p => ((groups[p.1]?).bind fun g => g.2[p.2]?).getD "") := by
    rw [List.map_map, List.map_map]
    exact List.map_congr_left fun g hg => (Numbered.map_text_entries (hsub.subset hg)).symm
  -- an empty group would have left its mix without any candidate
  have hlists : ∀ texts ∈ (m.map Prod.fst).map (fun g : Group => g.2), texts ≠ [] := by
    simp only [List.forall_mem_map]
    intro g hg
    have hmem := List.mem_map_of_mem (f := Prod.fst) (hsub.subset hg)
    rw [List.zipIdx_map_fst] at hmem
    exact hne g.1 hmem
  rw [compounds_eq_map_picks (by simpa using hmne) hlists, htexts, picks_map, List.map_map]
  rfl

end Tokens

/-- **The candidates of an element are its choices in order.**  Of the groups that have something to
    contribute, a choice takes one text or none from each, but not none from all.  Every choice is
    there once, the preferred ones first, and what is written for it is its texts in the order of
    the groups. -/
theorem Host.leafCandidates_eq_map_text {E ε : Type} (h : Host E ε) (o : Options) (e : E) :
    ∃ choices : List Choice,
      (∀ c, c ∈ choices ↔ c.IsFrom ((h.tokens o e).groups o.maxCombination o.kinds)) ∧
      choices.Nodup ∧
      choices.Pairwise (Choice.Precedes o ((h.tokens o e).groups o.maxCombination o.kinds)) ∧
      h.leafCandidates o e =
        choices.map (Choice.text ((h.tokens o e).groups o.maxCombination o.kinds)) ∧
      (h.leafCandidates o e).length + 1 =
        (((h.tokens o e).groups o.maxCombination o.kinds).map fun g => 1 + g.2.length).prod := by
  have htexts := (h.tokens o e).candidates_eq_map_text o o.kinds
  generalize hgroups : (h.tokens o e).groups o.maxCombination o.kinds = groups at htexts ⊢
  have hinOrder := Options.pairwise_choices o groups
  refine ⟨o.choices groups, fun c => Options.mem_choices_iff, ?_, hinOrder, htexts, ?_⟩
  · refine hinOrder.imp fun {a b} hlt heq => ?_
    subst heq
    exact a.not_precedes_self o groups hlt
  · rw [leafCandidates, htexts, List.length_map, Options.length_choices]

end Pinpoint
