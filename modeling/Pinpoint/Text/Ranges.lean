/-
  Sets and maps of characters written as tables of code point ranges.

  1. `inRanges`: membership in a list of closed ranges, which stand in ascending order.
  2. `Shift`: a run of code points that all move by one distance.
-/
namespace Pinpoint.Text

/-! ## Sets of characters -/

/-- Is the character inside one of the closed ranges?  They stand in ascending order, so the first
    range that starts beyond the character ends the search. -/
def inRanges : List (Nat × Nat) → Char → Bool
  | [], _ => false
  | (first, last) :: rest, c => first ≤ c.toNat && (c.toNat ≤ last || inRanges rest c)

/-! ## Maps that move runs of characters -/

/-- The code points `first, first + step, …, last`, each moved by `by` places. -/
structure Shift where
  first : Nat
  last : Nat
  step : Nat
  distance : Int
  deriving Repr, DecidableEq

/-- Does the run hold this code point? -/
def Shift.holds (r : Shift) (n : Nat) : Bool :=
  r.first ≤ n && n ≤ r.last && (n - r.first) % r.step = 0

/-- Where the table moves a character; a character in no run stays. -/
def shifted (table : List Shift) (c : Char) : Char :=
  match table.find? (·.holds c.toNat) with
  | some r => Char.ofNat (c.toNat + r.distance).toNat
  | none => c

/-- The code points of a run. -/
def Shift.members (r : Shift) : List Nat :=
  (List.range ((r.last - r.first) / r.step + 1)).map fun k => r.first + r.step * k

/-- The characters which the table moves onto `c`. -/
def sources (table : List Shift) (c : Char) : List Char :=
  table.filterMap fun r =>
    let n := (c.toNat - r.distance : Int).toNat
    if r.holds n then some (Char.ofNat n) else none

end Pinpoint.Text
