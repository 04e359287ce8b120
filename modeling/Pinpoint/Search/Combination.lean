/-
  Choosing some of the items of a list, in their order.

  1. `choose k`: all ways to pick `k` items, those with the first item before those without it.
  2. `combinations`: all ways to pick between `min` and `max` items, smaller picks first.
-/
namespace Pinpoint

/-- All picks of `k` items.  Picks that hold the first item come first, so the lists of the places
    picked come in lexicographic order. -/
def choose {α : Type} : Nat → List α → List (List α)
  | 0, _ => [[]]
  | _ + 1, [] => []
  | k + 1, x :: xs => (choose k xs).map (x :: ·) ++ choose (k + 1) xs

/-- All picks of at least `min` and at most `max` items, by size. -/
def combinations {α : Type} (items : List α) (min max : Nat) : List (List α) :=
  (List.range' min (Nat.min max items.length + 1 - min)).flatMap fun k => choose k items

/-- The picks of some texts, each written as one text. -/
def joinedCombinations (items : List String) (min max : Nat) : List String :=
  (combinations items min max).map String.join

example : joinedCombinations ["a", "b", "c"] 1 2 = ["a", "b", "c", "ab", "ac", "bc"] := by decide
example : combinations [1, 2] 0 1 = [[], [1], [2]] ∧ combinations [1] 2 1 = [] := by decide

end Pinpoint
