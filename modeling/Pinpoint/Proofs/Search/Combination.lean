/-
  Choosing some of the items of a list.

  1. The picks of `k` items are the sublists of `k` items, all of them (`mem_choose_iff`), so the
     combinations are the sublists of the sizes asked for.
  2. **Smaller picks come first, and those of one size in the order of a dictionary**
     (`pairwise_combinations`).  In `choose` the first item decides: it is in all the earlier picks
     and in none of the later ones.
  3. All picks of some items, whatever their size, weigh as much as the product over the items of
     one more than their weight (`sum_combinations`).
-/
import Mathlib.Algebra.BigOperators.Ring.List
import Mathlib.Algebra.Ring.Nat
import Mathlib.Data.List.Perm.Subperm
import Mathlib.Data.List.Sort
import Mathlib.Data.List.Sublists
import Pinpoint.Search.Combination

namespace Pinpoint

variable {α β : Type}

/-! ## What is picked

  Both directions of each `iff` matter later on: what is picked is a sublist, so it has the
  properties of the items, and every sublist of the right size is picked, so no candidate is
  missing. -/

/-- **The picks of `k` items are the sublists of this length.**  A sublist either begins with the
    first item or does without it, and so do picks. -/
theorem mem_choose_iff {k : Nat} {xs ys : List α} :
    ys ∈ choose k xs ↔ ys.Sublist xs ∧ ys.length = k := by
  induction xs generalizing k ys with
  | nil =>
    cases k with
    | zero => simp [choose]
    | succ k =>
      rw [choose, List.sublist_nil]
      constructor
      · exact fun h => absurd h List.not_mem_nil
      · rintro ⟨rfl, hlen⟩
        cases hlen
  | cons x xs ih =>
    cases k with
    | zero =>
      rw [choose, List.mem_singleton, List.length_eq_zero_iff]
      exact ⟨fun h => ⟨h ▸ List.nil_sublist _, h⟩, fun h => h.2⟩
    | succ k =>
      -- with the first item, or without it
      rw [choose, List.mem_append, List.mem_map, ih, List.sublist_cons_iff]
      constructor
      · rintro (⟨zs, hzs, rfl⟩ | ⟨hsub, hlen⟩)
        · obtain ⟨hsub, hlen⟩ := ih.1 hzs
          exact ⟨Or.inr ⟨zs, rfl, hsub⟩, by rw [List.length_cons, hlen]⟩
        · exact ⟨Or.inl hsub, hlen⟩
      · rintro ⟨hsub | ⟨zs, rfl, hsub⟩, hlen⟩
        · exact Or.inr ⟨hsub, hlen⟩
        · exact Or.inl ⟨zs, ih.2 ⟨hsub, Nat.succ.inj hlen⟩, rfl⟩

/-- There is nothing to pick when the items are too few. -/
theorem choose_eq_nil {k : Nat} {xs : List α} (h : xs.length < k) : choose k xs = [] := by
  refine List.eq_nil_iff_forall_not_mem.2 fun ys hys => ?_
  obtain ⟨hsub, hlen⟩ := mem_choose_iff.1 hys
  have hle := hsub.length_le
  omega

/-- **The combinations are the sublists of the sizes asked for.** -/
theorem mem_combinations_iff {min max : Nat} {xs ys : List α} :
    ys ∈ combinations xs min max ↔ ys.Sublist xs ∧ min ≤ ys.length ∧ ys.length ≤ max := by
  have hmin : Nat.min max xs.length ≤ max ∧ Nat.min max xs.length ≤ xs.length :=
    ⟨Nat.min_le_left _ _, Nat.min_le_right _ _⟩
  simp only [combinations, List.mem_flatMap, List.mem_range'_1, mem_choose_iff]
  constructor
  · -- a size that is asked for, as far as there are items for it
    rintro ⟨k, hk, hsub, rfl⟩
    exact ⟨hsub, by omega⟩
  · rintro ⟨hsub, hlow, hhigh⟩
    have hle : ys.length ≤ Nat.min max xs.length := Nat.le_min.2 ⟨hhigh, hsub.length_le⟩
    exact ⟨ys.length, by omega, hsub, rfl⟩

/-- Items of another kind are picked in the same way. -/
theorem choose_map (f : α → β) (k : Nat) (xs : List α) :
    choose k (xs.map f) = (choose k xs).map (List.map f) := by
  induction xs generalizing k with
  | nil => cases k <;> rfl
  | cons x xs ih =>
    cases k with
    | zero => rfl
    | succ k =>
      rw [List.map_cons, choose, choose, ih, ih, List.map_append, List.map_map, List.map_map]
      rfl

/-- Items of another kind are combined in the same way. -/
theorem combinations_map (f : α → β) (xs : List α) (min max : Nat) :
    combinations (xs.map f) min max = (combinations xs min max).map (List.map f) := by
  rw [combinations, combinations, List.length_map, List.map_flatMap]
  simp only [choose_map]

/-! ## The order of the picks

  The order in which candidates are tried decides which one is taken. -/

/-- In increasing order, some of the items of another list are taken from it in its order. -/
theorem sublist_of_increasing {f : α → Nat} {xs ys : List α}
    (hxs : xs.Pairwise fun x y => f x < f y) (hys : ys.Pairwise fun x y => f x < f y)
    (h : xs ⊆ ys) : xs.Sublist ys := by
  have hasymm : ∀ x y, f x < f y → f y < f x → x = y := fun x y hxy hyx => absurd hyx hxy.asymm
  have : Std.Antisymm fun x y : α => f x < f y := ⟨hasymm⟩
  have hnodup : xs.Nodup := hxs.imp fun {x y} hlt heq => absurd (heq ▸ hlt) (Nat.lt_irrefl _)
  exact List.sublist_of_subperm_of_pairwise (List.subperm_of_subset hnodup h) hxs hys

/-- **Picks of one size are in the order of a dictionary**, when the items are in that of `f`.  For
    the search `f` is the place of a token among those of its kind. -/
theorem pairwise_choose {f : α → Nat} {xs : List α} (h : xs.Pairwise fun x y => f x < f y)
    (k : Nat) : (choose k xs).Pairwise fun ys zs => ys.map f < zs.map f := by
  induction xs generalizing k with
  | nil => cases k <;> simp [choose]
  | cons x xs ih =>
    cases k with
    | zero => simp [choose]
    | succ k =>
      obtain ⟨hx, hxs⟩ := List.pairwise_cons.1 h
      rw [choose, List.pairwise_append, List.pairwise_map]
      refine ⟨(ih hxs k).imp fun hlt => ?_, ih hxs (k + 1), fun ys hys zs hzs => ?_⟩
      · rw [List.map_cons, List.map_cons, List.cons_lt_cons_iff]
        exact Or.inr ⟨rfl, hlt⟩
      · -- the first item of the later pick comes behind the first item of all
        obtain ⟨ys, -, rfl⟩ := List.mem_map.1 hys
        obtain ⟨hsub, hlen⟩ := mem_choose_iff.1 hzs
        obtain ⟨z, zs, rfl⟩ := List.exists_cons_of_length_eq_add_one hlen
        rw [List.map_cons, List.map_cons, List.cons_lt_cons_iff]
        exact Or.inl (hx z (hsub.subset List.mem_cons_self))

/-- **Smaller picks come first**, and those of one size in the order of a dictionary. -/
theorem pairwise_combinations {f : α → Nat} {xs : List α} (h : xs.Pairwise fun x y => f x < f y)
    (min max : Nat) : (combinations xs min max).Pairwise fun ys zs =>
      ys.length < zs.length ∨ ys.length = zs.length ∧ ys.map f < zs.map f := by
  rw [combinations, List.pairwise_flatMap]
  refine ⟨fun k _ => ?_, (List.pairwise_lt_range' 1).imp fun {k l} hkl ys hys zs hzs => ?_⟩
  · refine (pairwise_choose h k).imp_of_mem fun hys hzs hlt => Or.inr ⟨?_, hlt⟩
    rw [(mem_choose_iff.1 hys).2, (mem_choose_iff.1 hzs).2]
  · rw [(mem_choose_iff.1 hys).2, (mem_choose_iff.1 hzs).2]
    exact Or.inl hkl

/-! ## Counting

  The combinations are counted by way of the library's list of all sublists, which has them in
  another order. -/

/-- The picks of `k` items are those that the library lists, in some order. -/
theorem perm_choose (k : Nat) (xs : List α) : (choose k xs).Perm (xs.sublistsLen k) := by
  induction xs generalizing k with
  | nil => cases k <;> simp [choose]
  | cons x xs ih =>
    cases k with
    | zero => simp [choose]
    | succ k =>
      rw [choose, List.sublistsLen_succ_cons]
      exact (((ih k).map _).append (ih (k + 1))).trans List.perm_append_comm

/-- The combinations of all sizes are all sublists, but for the one of size zero. -/
theorem perm_combinations (xs : List α) :
    ([] :: combinations xs 1 xs.length).Perm xs.sublists' := by
  have hrange : List.range (xs.length + 1) = 0 :: List.range' 1 xs.length := by
    rw [List.range_eq_range', List.range'_succ]
  have hmax : Nat.min xs.length xs.length + 1 - 1 = xs.length := Nat.min_self _
  refine List.Perm.trans ?_ (List.range_bind_sublistsLen_perm xs)
  rw [hrange, List.flatMap_cons, List.sublistsLen_zero, List.singleton_append, combinations, hmax]
  exact (List.Perm.flatMap_left _ fun k _ => perm_choose k xs).cons _

/-- **What all picks weigh together**, one more for the empty one.  Where each item weighs the
    number of choices that it offers, this counts the ways to pick items and make a choice for
    each. -/
theorem sum_combinations (w : α → Nat) (xs : List α) :
    ((combinations xs 1 xs.length).map fun ys => (ys.map w).prod).sum + 1 =
      (xs.map fun x => 1 + w x).prod := by
  -- each item is a factor: one for leaving it out, and its weight for picking it
  have hall : ∀ xs : List α, (xs.sublists'.map fun ys => (ys.map w).prod).sum =
      (xs.map fun x => 1 + w x).prod := by
    intro xs
    induction xs with
    | nil => rfl
    | cons x xs ih =>
      rw [List.sublists'_cons, List.map_append, List.sum_append, ih, List.map_map]
      have hwith : ((fun ys : List α => (ys.map w).prod) ∘ List.cons x) =
          fun ys => w x * (ys.map w).prod := by
        funext ys
        rw [Function.comp_apply, List.map_cons, List.prod_cons]
      rw [hwith, List.sum_map_mul_left, ih, List.map_cons, List.prod_cons, Nat.add_mul,
        Nat.one_mul]
  rw [← hall xs, ← ((perm_combinations xs).map _).sum_eq, List.map_cons, List.sum_cons,
    Nat.add_comm]
  rfl

end Pinpoint
