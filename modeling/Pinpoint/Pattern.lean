/-
  Patterns: texts that describe sets of names.

  1. From tokens to an expression: a stack of open groups, each holding the alternatives it has
     finished and the parts of the one it is in.
  2. `Pattern.compile?` and `Pattern.isMatch`, which asks for a match anywhere in a text.  A pattern
     that nests too deep or makes too large an automaton is refused.
-/
import Pinpoint.Pattern.Places
import Pinpoint.Pattern.Size
import Pinpoint.Pattern.Token

namespace Pinpoint

namespace PatternText

/-! ## From tokens to an expression -/

/-- A part of an alternative.  Switches take a place but match nothing and cannot be repeated. -/
structure Piece where
  expr : Expr
  /-- How deep the text of the part nests. -/
  depth : Nat
  isSwitches : Bool
  deriving Repr, DecidableEq

/-- How deep a text nests that holds parts side by side: several of them nest in it. -/
def depthOf (pieces : List Piece) : Nat :=
  let depth := (pieces.map Piece.depth).foldl max 0
  if pieces.length ≤ 1 then depth else depth + 1

/-- An open group: its alternatives so far, and the parts of the current one, the last first. -/
structure Frame where
  numbered : Bool
  finished : List Piece
  current : List Piece
  deriving Repr, DecidableEq

/-- The text as a whole, of which nothing has been read. -/
def Frame.start : Frame := ⟨false, [], []⟩

/-- The alternatives of a group, the last first, with the current one finished. -/
def Frame.alternatives (f : Frame) : List Piece :=
  ⟨.row (f.current.reverse.map Piece.expr), depthOf f.current, false⟩ :: f.finished

/-- The choice between all alternatives. -/
def Frame.close (f : Frame) : Piece :=
  ⟨.choice (f.alternatives.reverse.map Piece.expr), depthOf f.alternatives, false⟩

/-- Add a part to the current alternative. -/
def Frame.push (f : Frame) (p : Piece) : Frame := { f with current := p :: f.current }

/-- What one token does to the open groups, the innermost first. -/
def place? : Frame × List Frame → Token → Option (Frame × List Frame)
  | (f, outer), .atom e depth => some (f.push ⟨e, depth, false⟩, outer)
  | (f, outer), .switches => some (f.push ⟨.empty, 0, true⟩, outer)
  | (f, outer), .bar => some ({ f with finished := f.alternatives, current := [] }, outer)
  | (f, outer), .opening numbered => some (⟨numbered, [], []⟩, f :: outer)
  | (f, outer), .closing =>
    match outer with
    | [] => none
    | g :: outer =>
      let inside := f.close
      some (g.push ⟨.group f.numbered inside.expr, inside.depth + 1, false⟩, outer)
  | (f, outer), .repetition min max =>
    match f.current with
    | p :: before =>
      if p.isSwitches then none
      else some ({ f with current := ⟨.rep min max p.expr, p.depth + 1, false⟩ :: before }, outer)
    | [] => none

/-- The deepest nesting that a pattern may have. -/
def maxDepth : Nat := 250

/-- The expression of a pattern; every group must be closed. -/
def expr? (tokens : List Token) : Option Expr :=
  match tokens.foldlM place? (Frame.start, []) with
  | some (f, []) => if f.close.depth ≤ maxDepth then some f.close.expr else none
  | _ => none

end PatternText

/-! ## Patterns -/

/-- A pattern: the text it was written as, and what it means. -/
structure Pattern where
  source : String
  expr : Expr
  deriving Repr, DecidableEq

namespace Pattern

/-- The pattern of a text, if it is one. -/
def compile? (source : String) : Option Pattern := do
  let tokens ← PatternText.tokens? source
  let expr ← PatternText.expr? tokens
  if expr.isSmall then some ⟨source, expr⟩ else none

/-- Does the pattern match anywhere in the text? -/
def isMatch (p : Pattern) (text : String) : Bool := p.expr.matchesIn text.toList

example : (compile? "^data-").any (·.isMatch "data-id") = true := by decide +kernel
example : (compile? "^(a|b)+$").any (·.isMatch "abc") = false := by decide +kernel
example : compile? "a|*" = none ∧ compile? "(" = none ∧ compile? "a)" = none := by decide

end Pattern

end Pinpoint
