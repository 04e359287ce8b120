/-
  Pattern expressions.

  1. Conditions on a place in a text.
  2. Expressions, and how the parts of a row or of a choice are put together.
-/
import Pinpoint.Pattern.CharSet

namespace Pinpoint

/-! ## Conditions on a place -/

/-- How a place lies to the words of a text. -/
inductive Edge
  /-- At the start or at the end of a word. -/
  | either
  | neither
  | start
  | stop
  /-- No word character before. -/
  | startHalf
  /-- No word character after. -/
  | stopHalf
  deriving Repr, DecidableEq

/-- Conditions on a place in a text. -/
inductive Look
  | textStart
  | textEnd
  | lineStart
  | lineEnd
  /-- Line starts where a carriage return also ends a line, alone or before a line feed. -/
  | anyLineStart
  | anyLineEnd
  /-- The edge of a word, whose characters may be those of ASCII only. -/
  | word (edge : Edge) (ascii : Bool)
  deriving Repr, DecidableEq

/-- Does a place lie so, with or without a word character before it and after it? -/
def Edge.holds (e : Edge) (before after : Bool) : Bool :=
  match e with
  | either => before != after
  | neither => before == after
  | start => !before && after
  | stop => before && !after
  | startHalf => !before
  | stopHalf => !after

/-- Is the character part of a word? -/
def isWordChar (ascii : Bool) (c : Char) : Bool :=
  if ascii then c.isAlphanum || c = '_' else Text.isWord c

/-- Does the condition hold between the character before the place and the one after it? -/
def Look.holds (l : Look) (before after : Option Char) : Bool :=
  match l with
  | textStart => before.isNone
  | textEnd => after.isNone
  | lineStart => before.isNone || before == some '\n'
  | lineEnd => after.isNone || after == some '\n'
  | anyLineStart =>
    before.isNone || before == some '\n' || (before == some '\r' && after != some '\n')
  | anyLineEnd =>
    after.isNone || after == some '\r' || (after == some '\n' && before != some '\r')
  | word e ascii => e.holds (before.any (isWordChar ascii)) (after.any (isWordChar ascii))

/-! ## Expressions -/

/-- A pattern expression. -/
inductive Expr
  | empty
  | one (s : CharSet)
  | look (l : Look)
  | seq (a b : Expr)
  | alt (a b : Expr)
  /-- At least `min` times, and at most `max` times if there is such a limit. -/
  | rep (min : Nat) (max : Option Nat) (e : Expr)
  /-- A group; a numbered one keeps what it has matched. -/
  | group (numbered : Bool) (e : Expr)
  deriving Repr, DecidableEq

/-- Expressions one after the other. -/
def Expr.row : List Expr → Expr
  | [] => .empty
  | e :: rest => rest.foldl .seq e

/-- A choice between expressions, of which there is at least one. -/
def Expr.choice : List Expr → Expr
  | [] => .empty
  | e :: rest => rest.foldl .alt e

end Pinpoint
