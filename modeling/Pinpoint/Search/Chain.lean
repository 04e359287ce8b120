/-
  Chains: one place for each level of ancestors, outermost first, with a piece of selector text in
  it or nothing.

  A chain is written as one selector.  Neighbouring segments are joined as parent and child;
  wherever places are left empty between two segments, the second one is anywhere below the first.

  1. Segments and chains.
  2. Writing a chain as a selector.
-/
namespace Pinpoint

/-! ## Segments and chains -/

/-- The text of one compound. -/
abbrev Segment := String

/-- No id, class or attribute in it: a tag or a place among siblings alone. -/
def Segment.isLowSpecificity (s : Segment) : Bool :=
  !s.toList.any fun c => c = '#' || c = '.' || c = '='

/-- One place for each level, outermost first. -/
structure Chain where
  slots : List (Option Segment)
  deriving Repr, DecidableEq

namespace Chain

/-- A chain without empty places. -/
def ofSegments (segments : List Segment) : Chain := ⟨segments.map some⟩

/-- The segment at a place, if there is one. -/
def get? (c : Chain) (i : Nat) : Option Segment := (c.slots[i]?).join

/-- The number of places, empty ones included. -/
def length (c : Chain) : Nat := c.slots.length

/-- True when every place is empty. -/
def isEmpty (c : Chain) : Bool := c.slots.all Option.isNone

/-- The chain with another content at one place; a place beyond the end changes nothing. -/
def set (c : Chain) (i : Nat) (segment : Option Segment) : Chain := ⟨c.slots.set i segment⟩

/-- The chain with one place emptied. -/
def without (c : Chain) (i : Nat) : Chain := c.set i none

/-! ## Writing a chain as a selector -/

/-- What stands between the segments written so far and the next place. -/
inductive Joint
  /-- No segment has been written. -/
  | start
  /-- The last segment is in the place before. -/
  | adjacent
  /-- Empty places have been passed since. -/
  | gap
  deriving Repr, DecidableEq

/-- The text that a joint puts before a segment. -/
def Joint.text : Joint → String
  | start => ""
  | adjacent => " > "
  | gap => " "

/-- The joint after an empty place. -/
def Joint.skip : Joint → Joint
  | start => start
  | _ => gap

/-- The selector of the remaining places. -/
def renderFrom : Joint → List (Option Segment) → String
  | _, [] => ""
  | j, none :: rest => renderFrom j.skip rest
  | j, some s :: rest => j.text ++ s ++ renderFrom .adjacent rest

/-- The selector of a chain. -/
def render (c : Chain) : String := renderFrom .start c.slots

example : render ⟨[none, some "body", none, none, some "li", none]⟩ = "body li" := by decide
example : (ofSegments ["html", "body", "#main"]).render = "html > body > #main" := by decide

end Chain

end Pinpoint
