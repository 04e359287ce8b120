/-
  Expressions `An+B`, which pick positions among siblings: every `A`-th position, counted from `B`.

  1. Expressions and the positions they pick.
  2. Decimal numbers of 32 bits.
  3. Reading an expression: blanks and letter case do not count.
-/
import Pinpoint.Text.Ascii

namespace Pinpoint

/-! ## Expressions -/

/-- The expression `An+B`. -/
structure Nth where
  a : Int32
  b : Int32
  deriving Repr, DecidableEq

namespace Nth

/-- Is `n` of the form `A·k + B` with `k ≥ 0`? -/
def picks (e : Nth) (n : Int32) : Bool :=
  let a := e.a.toInt
  let past := n.toInt - e.b.toInt
  if a = 0 then past = 0
  else if 0 < a then 0 ≤ past && past % a = 0
  else past ≤ 0 && past % a = 0

/-! ## Decimal numbers -/

/-- The value of a run of decimal digits, none for an empty run and for any other character. -/
def digits? (cs : List Char) : Option Nat :=
  if cs.isEmpty || !cs.all Char.isDigit then none
  else some (cs.foldl (fun n c => 10 * n + (c.toNat - '0'.toNat)) 0)

/-- A number that fits 32 bits with sign. -/
def word? (n : Int) : Option Int32 :=
  if Int32.minValue.toInt ≤ n ∧ n ≤ Int32.maxValue.toInt then some (Int32.ofInt n) else none

/-- A run of digits with at most one sign before it, whose value fits. -/
def number? : List Char → Option Int32
  | '+' :: ds => (digits? ds).bind fun n => word? n
  | '-' :: ds => (digits? ds).bind fun n => word? (-n)
  | ds => (digits? ds).bind fun n => word? n

/-! ## Reading an expression -/

/-- The coefficient, written before the letter: nothing and a bare sign stand for one. -/
def coefficient? (cs : List Char) : Option Int32 :=
  if cs = [] || cs = ['+'] then some 1
  else if cs = ['-'] then some (-1)
  else number? cs

/-- The offset, written after the letter: nothing, or a number with its sign. -/
def offset? : List Char → Option Int32
  | [] => some 0
  | c :: cs => if c = '+' || c = '-' then number? (c :: cs) else none

/-- Read an expression without blanks, in lower case. -/
def ofNormalized? (cs : List Char) : Option Nth :=
  if cs = ['o', 'd', 'd'] then some ⟨2, 1⟩
  else if cs = ['e', 'v', 'e', 'n'] then some ⟨2, 0⟩
  else
    match number? cs with
    | some b => some ⟨0, b⟩
    | none =>
      match cs.dropWhile (· ≠ 'n') with
      | [] => none
      | _ :: after => do
        let a ← coefficient? (cs.takeWhile (· ≠ 'n'))
        let b ← offset? after
        return ⟨a, b⟩

/-- Read an expression. -/
def ofString? (s : String) : Option Nth :=
  ofNormalized? ((s.toList.filter (fun c => !Ascii.isBlank c)).map Char.toLower)

example : ofString? "2n + 1" = some ⟨2, 1⟩ ∧ ofString? "-N" = some ⟨-1, 0⟩ := by decide
example : ofString? "3" = some ⟨0, 3⟩ ∧ ofString? "n1" = none ∧ ofString? "" = none := by decide
example : (⟨-1, 3⟩ : Nth).picks 2 = true ∧ (⟨-1, 3⟩ : Nth).picks 4 = false := by decide

end Nth

end Pinpoint
