/-
  What the candidates of an element are made of.

  1. Ranking moves items and loses none; a mix is a sublist of the groups that is not empty.
  2. The compounds of a mix are the ways to take one text from each of its groups, the earlier groups
     varying fastest (`compounds_eq_map_picks`).  No group is empty, so from the first one on there
     is always something to continue.
  3. **Every text of a group is a candidate by itself** (`mem_candidates`).
  4. **Every candidate is put together from texts of the groups** (`candidates_induction`): what
     holds of those texts and of two texts written one after the other holds of every candidate.
-/
import Pinpoint.Proofs.Search.Combination
import Pinpoint.Search.Candidate

namespace Pinpoint

variable {α : Type}

/-! ## Ranking

  The order in which candidates are tried decides which one wins.  Where a statement is about
  membership only, it suffices that ranking is a permutation. -/

/-- Inserting moves items and loses none. -/
theorem perm_insertRanked (before : α → α → Bool) (x : α) (xs : List α) :
    (insertRanked before x xs).Perm (x :: xs) := by
  induction xs with
  | nil => exact List.Perm.refl _
  | cons y ys ih =>
    rw [insertRanked]
    split
    · exact List.Perm.refl _
    · exact (ih.cons y).trans (List.Perm.swap x y ys)

/-- So does ranking, whatever decides which of two items comes first. -/
theorem perm_ranked (before : α → α → Bool) (xs : List α) : (ranked before xs).Perm xs := by
  induction xs with
  | nil => exact List.Perm.refl _
  | cons x xs ih => exact (perm_insertRanked before x _).trans (ih.cons x)

/-- The mixes are the sublists of the groups that are not empty.  A mix may take every group, so no
    size is left out. -/
theorem Options.mem_rankedMixes_iff {o : Options} {groups : List Group} {m : Mix} :
    m ∈ o.rankedMixes groups ↔ m.Sublist groups ∧ m ≠ [] := by
  rw [rankedMixes, (perm_ranked _ _).mem_iff, mem_combinations_iff]
  refine and_congr_right fun hm => ?_
  rw [and_iff_left hm.length_le]
  exact List.length_pos_iff

/-! ## Compounds

  A compound starts from nothing and is continued by a text of each list in turn.  The loop treats
  the first list in its own way, because there is nothing to continue yet. -/

/-- One item from each list, in every way; the item of the first list varies fastest.  The recursion
    takes the picks from the later lists first, and runs through the items of the first list for
    each of them. -/
def picks : List (List α) → List (List α)
  | [] => [[]]
  | items :: later => (picks later).flatMap fun rest => items.map (· :: rest)

/-- Once there is something to continue, each text continues everything written so far. -/
theorem continued_of_ne_nil {out : List String} (h : out ≠ []) (texts : List String) :
    continued out texts = texts.flatMap fun t => out.map (· ++ t) := by
  rw [continued, if_neg (by rw [List.isEmpty_iff]; exact h)]

/-- There is still something to continue then. -/
theorem continued_ne_nil {out texts : List String} (hout : out ≠ []) (htexts : texts ≠ []) :
    continued out texts ≠ [] := by
  obtain ⟨t, later, rfl⟩ := List.exists_cons_of_ne_nil htexts
  rw [continued_of_ne_nil hout, List.flatMap_cons]
  exact List.append_ne_nil_of_left_ne_nil (mt List.map_eq_nil_iff.1 hout) _

/-- Continuing with several lists is continuing with the picks from them, by induction on the lists.
    The texts `out` written so far come behind the picks in the order, which is what makes the
    earlier lists vary faster. -/
theorem foldl_continued {lists : List (List String)} (hlists : ∀ texts ∈ lists, texts ≠ [])
    {out : List String} (hout : out ≠ []) :
    lists.foldl continued out = (picks lists).flatMap fun p => out.map (· ++ String.join p) := by
  induction lists generalizing out with
  | nil => simp [picks]
  | cons texts lists ih =>
    obtain ⟨htexts, hlists⟩ := List.forall_mem_cons.1 hlists
    rw [List.foldl_cons, ih hlists (continued_ne_nil hout htexts), continued_of_ne_nil hout, picks,
      List.flatMap_assoc]
    congr 1
    funext rest
    rw [List.map_flatMap, List.flatMap_map]
    simp only [List.map_map, Function.comp_def, String.join_cons, String.append_assoc]

/-- **The compounds of some texts are the ways to take one from each list**, written one after the
    other.  With an empty list among them this would fail: nothing written so far and no way to go
    on look the same to `continued`, which would start anew behind it. -/
theorem compounds_eq_map_picks {lists : List (List String)} (hne : lists ≠ [])
    (hlists : ∀ texts ∈ lists, texts ≠ []) : compounds lists = (picks lists).map String.join := by
  obtain ⟨first, later, rfl⟩ := List.exists_cons_of_ne_nil hne
  obtain ⟨hfirst, hlater⟩ := List.forall_mem_cons.1 hlists
  -- the first list is what the loop starts from
  have hstart : continued [] first = first := rfl
  rw [compounds, List.foldl_cons, hstart, foldl_continued hlater hfirst, picks, List.map_flatMap]
  simp only [List.map_map, Function.comp_def, String.join_cons]

/-- What holds of the texts of every list, and of two texts one after the other, holds of every way
    to take one text from each.  No list need be filled for this, so it is proved of the loop itself
    and not of the picks. -/
theorem compounds_induction {P : String → Prop} (happend : ∀ a b, P a → P b → P (a ++ b))
    {lists : List (List String)} (hlists : ∀ texts ∈ lists, ∀ s ∈ texts, P s) {s : String}
    (hs : s ∈ compounds lists) : P s := by
  -- one list more, whether it is the first or not
  have hstep : ∀ (out texts : List String), (∀ s ∈ out, P s) → (∀ s ∈ texts, P s) →
      ∀ s ∈ continued out texts, P s := by
    intro out texts hout htexts s hs
    by_cases hnil : out = []
    · subst hnil
      exact htexts s hs
    · rw [continued_of_ne_nil hnil] at hs
      obtain ⟨t, ht, hs⟩ := List.mem_flatMap.1 hs
      obtain ⟨a, ha, rfl⟩ := List.mem_map.1 hs
      exact happend a t (hout a ha) (htexts t ht)
  have hfold : ∀ (later : List (List String)) (out : List String),
      (∀ texts ∈ later, ∀ s ∈ texts, P s) → (∀ s ∈ out, P s) →
      ∀ s ∈ later.foldl continued out, P s := by
    intro later
    induction later with
    | nil => exact fun out _ hout => hout
    | cons texts later ih =>
      intro out hlater hout
      obtain ⟨htexts, hlater⟩ := List.forall_mem_cons.1 hlater
      exact ih _ hlater (hstep out texts hout htexts)
  exact hfold lists [] hlists (fun _ h => absurd h List.not_mem_nil) s hs

/-! ## Candidates

  The candidates of an element for some kinds: the compounds of every mix of its groups. -/

namespace Tokens

variable {t : Tokens} {o : Options} {kinds : List Kind} {g : Group} {s : String}

/-- The groups of a level: those of its kinds that have a text. -/
theorem mem_groups_iff :
    g ∈ t.groups o.maxCombination kinds ↔
      g ∈ t.allGroups o.maxCombination ∧ g.1 ∈ kinds ∧ g.2 ≠ [] := by
  rw [groups, List.mem_filter, Bool.and_eq_true, List.contains_iff_mem, Bool.not_eq_true',
    List.isEmpty_eq_false_iff]

/-- **A text of a group is a candidate.**  It is the mix of its group alone. -/
theorem mem_candidates (hg : g ∈ t.allGroups o.maxCombination) (hkind : g.1 ∈ kinds)
    (hs : s ∈ g.2) : s ∈ t.candidates o kinds := by
  have hgroup : g ∈ t.groups o.maxCombination kinds :=
    mem_groups_iff.2 ⟨hg, hkind, List.ne_nil_of_mem hs⟩
  rw [candidates, List.mem_flatMap]
  exact ⟨[g], Options.mem_rankedMixes_iff.2 ⟨List.singleton_sublist.2 hgroup, by simp⟩, hs⟩

/-- **A candidate is made of texts of the groups.**  Properties that pass from two texts to their
    concatenation are shown of all candidates in this way: being readable, being written in certain
    characters, not being empty. -/
theorem candidates_induction {P : String → Prop} (happend : ∀ a b, P a → P b → P (a ++ b))
    (hgroups : ∀ g ∈ t.allGroups o.maxCombination, g.1 ∈ kinds → ∀ s ∈ g.2, P s)
    (hs : s ∈ t.candidates o kinds) : P s := by
  rw [candidates, List.mem_flatMap] at hs
  obtain ⟨m, hm, hs⟩ := hs
  refine compounds_induction happend (fun texts ht => ?_) hs
  obtain ⟨g, hg, rfl⟩ := List.mem_map.1 ht
  obtain ⟨hall, hkind, -⟩ := mem_groups_iff.1 ((Options.mem_rankedMixes_iff.1 hm).1.subset hg)
  exact hgroups g hall hkind

end Tokens

end Pinpoint
