/-
  Rows of places are the picks among all places, in the same order.

  `combinations` takes the first item or leaves it out; `placeRows` moves one row to the next.  Both are
  the same list.

  1. **The first place moves last** (`nextRow?_cons`): while the others have a next row, they move, and
     then the whole row starts one place further right.
  2. So the rows from a row on are those with the same first place, which are rows of the others, and
     then the rows that start further right (`rowsFrom_cons`).  This is how `choose` splits its picks.
  3. The first row of a size therefore runs through all picks of the size (`rowsFrom_range'`), and the
     rows of all sizes are the combinations of the places (`placeRows_eq_combinations`).
  4. **What is known of combinations is known of rows** (`rowCombinations_in_order`): which there are,
     each once, in which order, and how many.
-/
import Mathlib.Algebra.BigOperators.Intervals
import Mathlib.Order.Interval.Finset.Nat
import Pinpoint.Proofs.Search.Combination
import Pinpoint.Search.PlaceRow

namespace Pinpoint

variable {α : Type} {bound place : Nat} {row : List Nat}

/-! ## The next row

  A row is moved on by its last place that has room to its right; all places behind that one are set
  directly behind it. -/

/-- The first place moves only when no other can.  The last place that can move is looked for from
    the right, so the first place is looked at last. -/
theorem lastMovable?_cons (h : row.length < bound) (place : Nat) :
    lastMovable? bound (place :: row) =
      ((lastMovable? bound row).map fun p => (p.1, p.2 + 1)).or
        (if place + row.length + 1 < bound then some (place, 0) else none) := by
  -- one place more, and the others one position further: their room is the same
  have hroom : (fun p : Nat × Nat => decide (p.1 < bound - (place :: row).length + p.2)) ∘
      (fun p : Nat × Nat => (p.1, p.2 + 1)) =
        fun p => decide (p.1 < bound - row.length + p.2) := by
    funext p
    rw [Function.comp_apply, decide_eq_decide, List.length_cons]
    omega
  have hfirst : (place < bound - (place :: row).length + 0) = (place + row.length + 1 < bound) := by
    rw [List.length_cons]
    exact propext (by omega)
  rw [lastMovable?, List.zipIdx_cons, List.zipIdx_succ, List.reverse_cons, List.find?_append,
    ← List.map_reverse, List.find?_map, hroom, List.find?_singleton, lastMovable?]
  simp only [hfirst, decide_eq_true_eq]

/-- A move behind the first place leaves the first place. -/
theorem moved_cons_succ (first : Nat) (row : List Nat) (place position : Nat) :
    moved (first :: row) place (position + 1) = first :: moved row place position := by
  rw [moved, List.take_succ_cons, List.length_cons, Nat.add_sub_add_right, List.cons_append, moved]

/-- A move of the first place takes the others along: they follow it directly. -/
theorem moved_zero (row : List Nat) (place : Nat) :
    moved row place 0 = List.range' (place + 1) row.length := by
  rw [moved, List.take_zero, List.nil_append, Nat.sub_zero]

/-- **The first place moves last**, and then the others follow it directly. -/
theorem nextRow?_cons (h : row.length < bound) (place : Nat) :
    nextRow? bound (place :: row) =
      ((nextRow? bound row).map fun next => place :: next).or
        (if place + row.length + 1 < bound then some (List.range' (place + 1) (row.length + 1))
          else none) := by
  rw [nextRow?, lastMovable?_cons h, nextRow?]
  cases lastMovable? bound row with
  | some p =>
    rw [Option.map_some, Option.some_or, Option.map_some, Option.map_some, Option.map_some,
      Option.some_or, moved_cons_succ]
  | none =>
    rw [Option.map_none, Option.none_or, Option.map_none, Option.map_none, Option.none_or]
    by_cases hroom : place + row.length + 1 < bound
    · rw [if_pos hroom, if_pos hroom, Option.map_some, moved_zero, List.length_cons]
    · rw [if_neg hroom, if_neg hroom, Option.map_none]

/-! ## All rows

  The rows of one size from the first on, by repeating the move. -/

/-- **The rows from a row on**: first those with its first place, then those that start further
    right.  By induction on the rows of the others, until these have no next row. -/
theorem rowsFrom_cons (h : row.length < bound) (place : Nat) :
    rowsFrom bound (place :: row) = (rowsFrom bound row).map (place :: ·) ++
      if place + row.length + 1 < bound then
        rowsFrom bound (List.range' (place + 1) (row.length + 1)) else [] := by
  fun_induction rowsFrom bound row with
  | case1 row next hnext ih =>
    have hlen := length_nextRow hnext
    have hmove : nextRow? bound (place :: row) = some (place :: next) := by
      rw [nextRow?_cons h, hnext, Option.map_some, Option.some_or]
    rw [rowsFrom_of_some hmove, ih (hlen ▸ h), hlen, List.map_cons, List.cons_append]
  -- the other places are at their last row, so the first place moves on, if there is room
  | case2 row hnext =>
    have hmove := nextRow?_cons h place
    rw [hnext, Option.map_none, Option.none_or] at hmove
    rw [List.map_singleton, List.singleton_append]
    by_cases hroom : place + row.length + 1 < bound
    · rw [if_pos hroom] at hmove ⊢
      exact rowsFrom_of_some hmove
    · rw [if_neg hroom] at hmove ⊢
      exact rowsFrom_of_none hmove

/-- **The first row of a size runs through all picks of this size** among the places from its start
    to the bound.  By induction on the size, and within it on the room: with the first place fixed
    the others run through less room, and then the first place moves on by one. -/
theorem rowsFrom_range' {start size room : Nat} (hbound : start + room = bound)
    (hsize : size ≤ room) :
    rowsFrom bound (List.range' start size) = choose size (List.range' start room) := by
  induction size generalizing start room with
  | zero =>
    have hlast : nextRow? bound [] = none := rfl
    rw [List.range'_zero, rowsFrom_of_none hlast, choose]
  | succ size ihsize =>
    induction room generalizing start with
    | zero => omega
    | succ room ihroom =>
      have hfirst : List.range' start (size + 1) = start :: List.range' (start + 1) size :=
        List.range'_succ
      have hplaces : List.range' start (room + 1) = start :: List.range' (start + 1) room :=
        List.range'_succ
      have hlen : (List.range' (start + 1) size).length = size := List.length_range'
      have hwith : rowsFrom bound (List.range' (start + 1) size) =
          choose size (List.range' (start + 1) room) := ihsize (by omega) (by omega)
      have hshort : (List.range' (start + 1) size).length < bound := by omega
      have hrows := rowsFrom_cons hshort start
      rw [hwith, hlen] at hrows
      rw [hfirst, hrows, hplaces, choose]
      congr 1
      by_cases hroom : size + 1 ≤ room
      · rw [if_pos (by omega)]
        exact ihroom (by omega) hroom
      · -- the places are used up
        rw [if_neg (by omega)]
        refine (choose_eq_nil ?_).symm
        rw [List.length_range']
        omega

/-- **The rows of all sizes are the combinations of the places.** -/
theorem placeRows_eq_combinations (bound min max : Nat) :
    placeRows bound min max = combinations (List.range bound) min max := by
  rw [placeRows, combinations, List.length_range]
  refine List.flatMap_congr fun size hsize => ?_
  have hsize := List.mem_range'_1.1 hsize
  have hle : Nat.min max bound ≤ bound := Nat.min_le_right _ _
  rw [List.range_eq_range', List.range_eq_range']
  exact rowsFrom_range' (Nat.zero_add bound) (by omega)

/-! ## What rows there are

  Membership and order, carried over from combinations. -/

/-- Some of the places in their order, in other words. -/
theorem sublist_range_iff : row.Sublist (List.range bound) ↔
    row.Pairwise (· < ·) ∧ ∀ place ∈ row, place < bound := by
  constructor
  · intro h
    exact ⟨List.pairwise_lt_range.sublist h, fun place hplace => List.mem_range.1 (h.subset hplace)⟩
  · rintro ⟨hinOrder, hbelow⟩
    exact sublist_of_increasing (f := id) hinOrder List.pairwise_lt_range
      fun place hplace => List.mem_range.2 (hbelow place hplace)

/-- **A row has its places in increasing order below the bound**, as many as were asked for. -/
theorem mem_placeRows_iff {min max : Nat} : row ∈ placeRows bound min max ↔
    row.Pairwise (· < ·) ∧ (∀ place ∈ row, place < bound) ∧
      min ≤ row.length ∧ row.length ≤ Nat.min max bound := by
  rw [placeRows_eq_combinations, mem_combinations_iff, sublist_range_iff, and_assoc]
  refine and_congr_right fun hinOrder => and_congr_right fun hbelow => and_congr_right fun _ => ?_
  have hle := (sublist_range_iff.2 ⟨hinOrder, hbelow⟩).length_le
  rw [List.length_range] at hle
  rw [Nat.le_min]
  exact (and_iff_left hle).symm

/-- **Shorter rows come first**, and those of one size in the order of a dictionary. -/
theorem pairwise_placeRows (bound min max : Nat) : (placeRows bound min max).Pairwise
    fun row later => row.length < later.length ∨ row.length = later.length ∧ row < later := by
  have hplaces : (List.range bound).Pairwise fun place later => id place < id later :=
    List.pairwise_lt_range
  have h := pairwise_combinations hplaces min max
  simp only [List.map_id] at h
  rw [placeRows_eq_combinations]
  exact h

/-- No row is there twice, since no row comes before itself. -/
theorem nodup_placeRows (bound min max : Nat) : (placeRows bound min max).Nodup := by
  refine (pairwise_placeRows bound min max).imp fun {row later} h heq => ?_
  subst heq
  rcases h with h | ⟨-, h⟩
  · exact Nat.lt_irrefl _ h
  · exact List.lt_irrefl row h

/-! ## What is picked

  From places to the items that stand at them. -/

/-- Every place of a row has an item, and a combination has just these items.  Said with `some` on
    both sides, so that a place without an item could not be passed over in silence. -/
theorem combinations_map_some (items : List α) (min max : Nat) :
    (combinations items min max).map (List.map some) =
      (placeRows items.length min max).map (List.map fun place => items[place]?) := by
  have hitems : items.map some = (List.range items.length).map fun place => items[place]? := by
    refine List.ext_getElem (by simp) fun i hi hi' => ?_
    rw [List.length_map] at hi
    rw [List.getElem_map, List.getElem_map, List.getElem_range, List.getElem?_eq_getElem hi]
  rw [← combinations_map, hitems, combinations_map, placeRows_eq_combinations]

/-- **Row by row, the same is picked.** -/
theorem rowCombinations_eq (items : List α) (min max : Nat) :
    rowCombinations items min max = combinations items min max := by
  have h := congrArg (List.map (List.filterMap id)) (combinations_map_some items min max)
  simp only [List.map_map, Function.comp_def, List.filterMap_map, id_eq, List.filterMap_some,
    List.map_id'] at h
  exact h.symm

/-- **The number of combinations** is the sum of the numbers for their sizes. -/
theorem length_combinations (items : List α) (min max : Nat) :
    (combinations items min max).length =
      ∑ size ∈ Finset.Icc min (Nat.min max items.length), items.length.choose size := by
  rw [combinations, List.length_flatMap]
  simp only [(perm_choose _ items).length_eq, List.length_sublistsLen]
  rfl

/-- **The combinations are the items at the rows of places, in the order of the rows.**  Every row of
    places of a size asked for is there once; shorter rows come first, and those of one size in the
    order of a dictionary.  A place of a row has an item, so nothing is left out of a pick, and the
    number of picks is the sum of the binomial coefficients.  Splitting the items picks the same, and
    of texts each pick is written as one text. -/
theorem rowCombinations_in_order (items : List α) (texts : List String) (min max : Nat) :
    (∀ row, row ∈ placeRows items.length min max ↔
      row.Pairwise (· < ·) ∧ (∀ place ∈ row, place < items.length) ∧
        min ≤ row.length ∧ row.length ≤ Nat.min max items.length) ∧
    (placeRows items.length min max).Nodup ∧
    (placeRows items.length min max).Pairwise (fun row later =>
      row.length < later.length ∨ row.length = later.length ∧ row < later) ∧
    (rowCombinations items min max).map (List.map some) =
      (placeRows items.length min max).map (List.map fun place => items[place]?) ∧
    (rowCombinations items min max).length =
      ∑ size ∈ Finset.Icc min (Nat.min max items.length), items.length.choose size ∧
    rowCombinations items min max = combinations items min max ∧
    joinedCombinations texts min max = (rowCombinations texts min max).map String.join := by
  refine ⟨fun row => mem_placeRows_iff, nodup_placeRows _ _ _, pairwise_placeRows _ _ _, ?_, ?_,
    rowCombinations_eq items min max, ?_⟩
  · rw [rowCombinations_eq, combinations_map_some]
  · rw [rowCombinations_eq, length_combinations]
  · rw [joinedCombinations, rowCombinations_eq]

end Pinpoint
