/-
  Putting items in order without moving equal ones past each other.
-/
namespace Pinpoint

/-- Insert an item ahead of the first one that it may stand before. -/
def insertRanked {α : Type} (before : α → α → Bool) (x : α) : List α → List α
  | [] => [x]
  | y :: ys => if before x y then x :: y :: ys else y :: insertRanked before x ys

/-- The items in order; of two that may stand before each other, the earlier one stays first. -/
def ranked {α : Type} (before : α → α → Bool) : List α → List α
  | [] => []
  | x :: xs => insertRanked before x (ranked before xs)

example : ranked (fun a b => a.1 ≤ b.1) [(2, 0), (1, 1), (2, 2), (1, 3)]
    = [(1, 1), (1, 3), (2, 0), (2, 2)] := by decide

end Pinpoint
