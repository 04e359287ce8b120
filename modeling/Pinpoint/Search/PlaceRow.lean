/-
  Places in a list, picked one row after the other.

  `combinations` splits the items; here only one row of places is kept, and the next row is made from
  it.

  1. `nextRow?`: of the places that can move right, the last one moves by one, and those behind it
     follow it directly.
  2. `rowsFrom`: a row and all rows after it.  Read as a number, with the distances of its places to a
     limit as digits, a row falls with every move (`distance_nextRow`).
  3. `placeRows`: the rows of all sizes asked for; `pick`: the items at the places of a row.
-/
import Pinpoint.Search.Combination

namespace Pinpoint

/-! ## The next row -/

/-- The last place that can move right, with its position in the row: those behind it still find
    room. -/
def lastMovable? (bound : Nat) (row : List Nat) : Option (Nat × Nat) :=
  row.zipIdx.reverse.find? fun p => decide (p.1 < bound - row.length + p.2)

/-- The row after a move: what stands before the place stays, and the others follow it directly. -/
def moved (row : List Nat) (place position : Nat) : List Nat :=
  row.take position ++ List.range' (place + 1) (row.length - position)

/-- The next row of as many places below a bound. -/
def nextRow? (bound : Nat) (row : List Nat) : Option (List Nat) :=
  (lastMovable? bound row).map fun p => moved row p.1 p.2

/-- What moves is a place of the row, before the last one that it may come to. -/
theorem lastMovable?_eq_some {bound place position : Nat} {row : List Nat}
    (h : lastMovable? bound row = some (place, position)) :
    row[position]? = some place ∧ place < bound - row.length + position := by
  have hmem := List.mem_reverse.1 (List.mem_of_find?_eq_some h)
  have hroom := List.find?_some h
  exact ⟨List.mem_zipIdx_iff_getElem?.1 hmem, of_decide_eq_true hroom⟩

theorem length_moved {row : List Nat} {position : Nat} (h : position < row.length) (place : Nat) :
    (moved row place position).length = row.length := by
  rw [moved, List.length_append, List.length_take, List.length_range']
  omega

theorem length_nextRow {bound : Nat} {row next : List Nat} (h : nextRow? bound row = some next) :
    next.length = row.length := by
  obtain ⟨p, hp, rfl⟩ := Option.map_eq_some_iff.1 h
  obtain ⟨hplace, -⟩ := lastMovable?_eq_some hp
  exact length_moved (List.getElem?_eq_some_iff.1 hplace).1 _

/-! ## Moves come to an end -/

/-- A row as a number: its digits are the distances of the places to a limit that none can pass. -/
def distance (limit : Nat) (row : List Nat) : Nat :=
  row.foldl (fun n place => n * (limit + 1) + (limit - place)) 0

/-- What is before decides, whatever the digits are. -/
theorem foldl_distance_lt {limit m n : Nat} {row later : List Nat} (h : m < n)
    (hlen : row.length = later.length) :
    row.foldl (fun n place => n * (limit + 1) + (limit - place)) m <
      later.foldl (fun n place => n * (limit + 1) + (limit - place)) n := by
  induction row generalizing later m n with
  | nil =>
    rw [List.eq_nil_of_length_eq_zero hlen.symm]
    exact h
  | cons place row ih =>
    cases later with
    | nil => cases hlen
    | cons place' later =>
      rw [List.foldl_cons, List.foldl_cons]
      refine ih ?_ (Nat.succ.inj hlen)
      have hle : (m + 1) * (limit + 1) ≤ n * (limit + 1) := Nat.mul_le_mul_right _ h
      rw [Nat.succ_mul] at hle
      omega

/-- **A move brings a row closer to its end.** -/
theorem distance_nextRow {bound : Nat} {row next : List Nat} (h : nextRow? bound row = some next) :
    distance (bound + next.length) next < distance (bound + row.length) row := by
  rw [length_nextRow h]
  obtain ⟨p, hp, rfl⟩ := Option.map_eq_some_iff.1 h
  obtain ⟨hplace, hlt⟩ := lastMovable?_eq_some hp
  obtain ⟨hposition, hget⟩ := List.getElem?_eq_some_iff.1 hplace
  have hsplit : row = row.take p.2 ++ p.1 :: row.drop (p.2 + 1) := by
    rw [← hget, ← List.drop_eq_getElem_cons hposition, List.take_append_drop]
  have hbehind : row.length - p.2 = (row.length - (p.2 + 1)) + 1 := by omega
  have hlimit : p.1 < bound + row.length := by omega
  generalize bound + row.length = limit at hlimit ⊢
  rw [moved, hbehind, List.range'_succ, distance, distance]
  conv => rhs; rw [hsplit]
  rw [List.foldl_append, List.foldl_append, List.foldl_cons, List.foldl_cons]
  refine foldl_distance_lt ?_ ?_
  · omega
  · rw [List.length_range', List.length_drop]

/-! ## All rows -/

/-- A row and all rows after it. -/
def rowsFrom (bound : Nat) (row : List Nat) : List (List Nat) :=
  match _h : nextRow? bound row with
  | some next => row :: rowsFrom bound next
  | none => [row]
termination_by distance (bound + row.length) row
decreasing_by exact distance_nextRow ‹_›

theorem rowsFrom_of_some {bound : Nat} {row next : List Nat} (h : nextRow? bound row = some next) :
    rowsFrom bound row = row :: rowsFrom bound next := by
  rw [rowsFrom]
  split
  · rename_i next' h'
    rw [Option.some.inj (h.symm.trans h')]
  · rename_i h'
    cases h.symm.trans h'

theorem rowsFrom_of_none {bound : Nat} {row : List Nat} (h : nextRow? bound row = none) :
    rowsFrom bound row = [row] := by
  rw [rowsFrom]
  split
  · rename_i next h'
    cases h.symm.trans h'
  · rfl

/-- The rows of at least `min` and at most `max` places below a bound; those of a size start with the
    first places. -/
def placeRows (bound min max : Nat) : List (List Nat) :=
  (List.range' min (Nat.min max bound + 1 - min)).flatMap fun size =>
    rowsFrom bound (List.range size)

/-- The items at the places of a row. -/
def pick {α : Type} (items : List α) (row : List Nat) : List α :=
  row.filterMap fun place => items[place]?

/-- All picks of at least `min` and at most `max` items, row by row. -/
def rowCombinations {α : Type} (items : List α) (min max : Nat) : List (List α) :=
  (placeRows items.length min max).map (pick items)

example : rowsFrom 4 [0, 3] = [[0, 3], [1, 2], [1, 3], [2, 3]] := by decide +kernel

end Pinpoint
