/-
  Where an expression matches.

  A match is a pair of places in the text.  A set of places is a number whose bits stand for the
  places, so that taking one character moves all places at once.  `Walk.ends` follows an
  expression from the places where matches may start to all places where they can end.  Whether an
  expression matches somewhere is then whether any place is reached from all places, and choices
  between longer and shorter matches do not come up.

  1. Sets of places.
  2. Repetition.
  3. Expressions prepared for one text, and where they end.
  4. `Expr.matchesIn`.
-/
import Pinpoint.Pattern.Expr

namespace Pinpoint

/-! ## Sets of places -/

namespace Places

/-- The places of a list of answers, the first of which is for place 0. -/
def ofList : List Bool → Nat
  | [] => 0
  | b :: rest => 2 * ofList rest + b.toNat

/-- All places up to `n`, that one included. -/
def upTo (n : Nat) : Nat := (1 <<< (n + 1)) - 1

/-- The characters before and after each place. -/
def neighbours : Option Char → List Char → List (Option Char × Option Char)
  | before, [] => [(before, none)]
  | before, c :: rest => (before, some c) :: neighbours (some c) rest

/-! ## Repetition -/

/-- A step, taken exactly `n` times. -/
def times (step : Nat → Nat) : Nat → Nat → Nat
  | 0, places => places
  | n + 1, places => if places = 0 then 0 else times step n (step places)

/-- The places reached in up to `n` steps from the places `fresh`, together with those that have
    been seen. -/
def within (step : Nat → Nat) : Nat → Nat → Nat → Nat
  | 0, _, seen => seen
  | n + 1, fresh, seen =>
    let all := seen ||| step fresh
    if all = seen then seen else within step n (all ^^^ seen) all

end Places

/-! ## Expressions prepared for one text -/

/-- An expression whose sets and conditions have been looked up at every place of a text. -/
inductive Walk
  | empty
  /-- Go on by one character from these places. -/
  | step (places : Nat)
  /-- Stay at these places. -/
  | stay (places : Nat)
  | seq (a b : Walk)
  | alt (a b : Walk)
  | rep (min : Nat) (max : Option Nat) (s : Walk)
  deriving Repr, DecidableEq

namespace Walk

/-- The expression prepared for a text. -/
def ofExpr (text : List Char) : Expr → Walk
  | .empty => .empty
  | .one s => .step (Places.ofList (text.map s.contains))
  | .look l =>
    .stay (Places.ofList ((Places.neighbours none text).map fun (before, after) =>
      l.holds before after))
  | .seq a b => .seq (ofExpr text a) (ofExpr text b)
  | .alt a b => .alt (ofExpr text a) (ofExpr text b)
  | .rep min max e => .rep min max (ofExpr text e)
  | .group _ e => ofExpr text e

/-- The places where a match from one of the given places can end.  A text of `bound - 1` characters
    has `bound` places, so a repetition that has run `bound` times reaches no further place. -/
def ends (bound : Nat) : Walk → Nat → Nat
  | empty, places => places
  | step allowed, places => (places &&& allowed) <<< 1
  | stay allowed, places => places &&& allowed
  | seq a b, places =>
    let between := a.ends bound places
    if between = 0 then 0 else b.ends bound between
  | alt a b, places => a.ends bound places ||| b.ends bound places
  | rep min max s, places =>
    let first := Places.times (s.ends bound) (Nat.min min bound) places
    let more :=
      match max with
      | none => bound
      | some max => Nat.min (max - min) bound
    Places.within (s.ends bound) more first first

end Walk

/-! ## Matching -/

/-- Does the expression match anywhere in the text? -/
def Expr.matchesIn (e : Expr) (text : List Char) : Bool :=
  (Walk.ofExpr text e).ends (text.length + 1) (Places.upTo text.length) ≠ 0

example : (Expr.rep 2 none (.one (.single 'a'))).matchesIn "baab".toList = true := by decide
example : (Expr.rep 3 none (.one (.single 'a'))).matchesIn "baab".toList = false := by decide

end Pinpoint
