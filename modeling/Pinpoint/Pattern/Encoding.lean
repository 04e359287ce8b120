/-
  How the characters of a set are spelled in bytes, as ranges of byte sequences.

  A character beyond ASCII is spelled by a leading byte and up to three more, each of which holds one
  digit to the base 64.  A range of code points of one length falls into boxes: sequences of ranges
  of digits, the last of which may be full.

  1. Ranges of digits.
  2. The sequences of a set.
  3. Automata for a set: forward, where equal ends are shared, and backward, where equal fronts are.
-/
import Pinpoint.Pattern.CharSet
import Std.Data.HashMap

namespace Pinpoint.Encoding

/-! ## Ranges of digits -/

/-- Numbers from one to another as sequences of ranges of digits to the base 64, the first digit of
    which has no limit.  There are `count` digits after the first. -/
def boxes : Nat → Nat → Nat → List (List (Nat × Nat))
  | 0, first, last => [[(first, last)]]
  | count + 1, first, last =>
    let unit := Nat.pow 64 (count + 1)
    let (a, b) := (first / unit, last / unit)
    let under (digit low high : Nat) : List (List (Nat × Nat)) :=
      (boxes count low high).map ((digit, digit) :: ·)
    if a = b then under a (first % unit) (last % unit)
    else
      let ragged := first % unit ≠ 0
      let short := last % unit ≠ unit - 1
      let front := if ragged then under a (first % unit) (unit - 1) else []
      let back := if short then under b 0 (last % unit) else []
      let low := if ragged then a + 1 else a
      let high := if short then b - 1 else b
      let middle :=
        if low ≤ high then [(low, high) :: List.replicate (count + 1) (0, 63)] else []
      front ++ middle ++ back

/-! ## The sequences of a set -/

/-- The code points of each length: how many digits follow the first, and where they start and
    end. -/
def lengths : List (Nat × Nat × Nat) :=
  [(0, 0x0, 0x7f), (1, 0x80, 0x7ff), (2, 0x800, 0xffff), (3, 0x10000, 0x10ffff)]

/-- What a leading byte adds to its digit. -/
def lead (count : Nat) : Nat :=
  match count with
  | 0 => 0
  | 1 => 0xc0
  | 2 => 0xe0
  | _ => 0xf0

/-- The leading byte of a sequence in place of its first digit. -/
def withLead (count : Nat) : List (Nat × Nat) → List (Nat × Nat)
  | (a, b) :: rest => (a + lead count, b + lead count) :: rest
  | [] => []

/-- The sequences of byte ranges of a set, in order. -/
def sequences (s : CharSet) : List (List (Nat × Nat)) :=
  s.ranges.flatMap fun (first, last) =>
    lengths.flatMap fun (count, low, high) =>
      let (a, b) := (max first low, min last high)
      if a ≤ b then (boxes count a b).map (withLead count) else []

/-- How many bytes a character takes. -/
def byteCount (c : Char) : Nat := c.utf8Size

/-! ## Automata for a set -/

/-- Sequences that follow each other and start alike, taken together. -/
def groups : List (List (Nat × Nat)) → List ((Nat × Nat) × List (List (Nat × Nat)))
  | [] => []
  | [] :: rest => groups rest
  | (r :: tail) :: rest =>
    match groups rest with
    | (r', tails) :: more =>
      if r = r' then (r, tail :: tails) :: more else (r, [tail]) :: (r', tails) :: more
    | [] => [(r, [tail])]

/-- The states met so far, by their transitions, and the transitions of all of them. -/
structure States where
  known : Std.HashMap (List (Nat × Nat × Nat)) Nat
  transitions : Nat

/-- The state for some sequences of at most `depth` ranges; equal states are made once.  State 0 is
    the end. -/
def state : Nat → List (List (Nat × Nat)) → StateM States Nat
  | 0, _ => pure 0
  | depth + 1, sequences => do
    let transitions ← (groups sequences).mapM fun ((a, b), tails) => do
      let next ← if tails.all List.isEmpty then pure 0 else state depth tails
      return (a, b, next)
    let found ← get
    match found.known[transitions]? with
    | some i => return i
    | none =>
      let i := found.known.size + 1
      set (⟨found.known.insert transitions i, found.transitions + transitions.length⟩ : States)
      return i

/-- How many states and transitions an automaton for sequences has that shares equal ends, its end
    not counted. -/
def forwardSize (sequences : List (List (Nat × Nat))) : Nat × Nat :=
  let found := ((state 4 sequences).run ⟨∅, 0⟩).2
  (found.known.size, found.transitions)

/-- How many ranges sequences have that follow each other, where equal fronts are shared. -/
def frontCount : List (Nat × Nat) → List (List (Nat × Nat)) → Nat
  | _, [] => 0
  | before, s :: rest => s.length - shared before s + frontCount s rest
where
  /-- The length of the front that two sequences share. -/
  shared : List (Nat × Nat) → List (Nat × Nat) → Nat
  | r :: rest, r' :: rest' => if r = r' then shared rest rest' + 1 else 0
  | _, _ => 0

example : boxes 1 0x85 0x3c6 = [[(2, 2), (5, 63)], [(3, 14), (0, 63)], [(15, 15), (0, 6)]] := by
  decide +kernel

end Pinpoint.Encoding
