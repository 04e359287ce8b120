/-
  Escapes in patterns: characters by their code points, classes, and conditions on a place.
-/
import Pinpoint.Pattern.Expr
import Pinpoint.Pattern.PropertyName
import Pinpoint.Pattern.Switches

namespace Pinpoint.PatternText

/-- What an escape stands for. -/
inductive Escape
  | literal (c : Char)
  | set (s : CharSet)
  | look (l : Look)
  deriving Repr, DecidableEq

/-! ## Characters by their code points -/

/-- The value of a hexadecimal digit. -/
def hexDigit? (c : Char) : Option Nat :=
  if c.isDigit then some (c.toNat - '0'.toNat)
  else if 'a' ≤ c ∧ c ≤ 'f' then some (c.toNat - 'a'.toNat + 10)
  else if 'A' ≤ c ∧ c ≤ 'F' then some (c.toNat - 'A'.toNat + 10)
  else none

/-- The character whose code point has these hexadecimal digits. -/
def hexChar? (digits : List Char) : Option Char := do
  if digits.isEmpty then none
  let n ← digits.foldlM (fun n d => (hexDigit? d).map (16 * n + ·)) 0
  if n < 0x110000 ∧ ¬ (0xd800 ≤ n ∧ n < 0xe000) then some (Char.ofNat n) else none

/-- What stands in braces, after the opening one, and the rest. -/
def braced? (sw : Switches) (s : List Char) : Option (List Char × List Char) :=
  match sw.take (· ≠ '}') s.length (sw.skip s) with
  | (inside, '}' :: rest) => some (inside, rest)
  | _ => none

/-- A code point after `\x`, `\u` or `\U`: that many digits, or any number of them in braces. -/
def hexEscape? (sw : Switches) (count : Nat) (s : List Char) : Option (Char × List Char) :=
  match sw.skip s with
  | '{' :: rest => do
    let (inside, rest) ← braced? sw rest
    return (← hexChar? inside, rest)
  | s =>
    let (digits, rest) := sw.take (fun _ => true) count s
    if digits.length = count then (hexChar? digits).map (·, rest) else none

/-- Two digits stand for a byte where only ASCII is known, and bytes beyond it are no characters. -/
def byteEscape? (sw : Switches) (s : List Char) : Option (Char × List Char) := do
  let (c, rest) ← hexEscape? sw 2 s
  if sw.ascii && (sw.skip s).head? ≠ some '{' && !Ascii.isAscii c then none else some (c, rest)

/-! ## Classes -/

/-- The set of a property: one letter, or a name in braces, perhaps with a value.  A sign of
    inequality before the value reads like a sign of equality. -/
def property? (sw : Switches) (s : List Char) : Option (CharSet × List Char) :=
  match sw.skip s with
  | [] | '\\' :: _ => none
  | '{' :: rest => do
    let (name, rest) ← braced? sw rest
    return (← named? name, rest)
  | c :: rest => (CharSet.ofName? [c]).map (·, rest)
where
  /-- The first place where a text stands, and what follows it. -/
  cutAt? (mark : List Char) : List Char → Option (List Char × List Char)
    | [] => none
    | c :: rest =>
      if mark.isPrefixOf (c :: rest) then some ([], (c :: rest).drop mark.length)
      else (cutAt? mark rest).map fun (before, after) => (c :: before, after)
  /-- The set of a name with or without a value. -/
  named? (name : List Char) : Option CharSet :=
    match cutAt? ['!', '='] name <|> cutAt? [':'] name <|> cutAt? ['='] name with
    | some (name, value) => CharSet.ofNameAndValue? name value
    | none => CharSet.ofName? name

/-- The set, with case variants where case is ignored.  Where only ASCII is known, the variants are
    those of ASCII letters. -/
def complete (sw : Switches) (s : CharSet) : CharSet :=
  if !sw.ignoreCase then s else if sw.ascii then s.caselessAscii else s.caseless

/-- The set or its complement.  Where only ASCII is known there are no complements, because they
    would hold what is no character. -/
def negate? (sw : Switches) (negated : Bool) (s : CharSet) : Option CharSet :=
  if sw.ascii && negated then none else some (CharSet.complIf negated s)

/-! ## Conditions on a place -/

/-- The names of edges. -/
def edges : List (String × Edge) :=
  [("start", .start), ("end", .stop), ("start-half", .startHalf), ("end-half", .stopHalf)]

/-- The edge of a word after `\b`, perhaps with a name in braces; none for a name that is no edge.
    Braces that no name could start are left to what comes next. -/
def namedEdge? (sw : Switches) (s : List Char) : Option (Edge × List Char) :=
  let isNameChar (c : Char) : Bool := c.isAlpha || c = '-'
  match s with
  | '{' :: rest =>
    let rest := sw.skip rest
    match sw.take isNameChar rest.length rest with
    | ([], rest) => if rest.isEmpty then none else some (.either, s)
    | (name, '}' :: rest) => (edges.lookup (String.ofList name)).map (·, rest)
    | _ => none
  | _ => some (.either, s)

/-! ## Escapes -/

/-- The escape after a backslash. -/
def escape? (sw : Switches) : List Char → Option (Escape × List Char)
  | [] => none
  | c :: rest =>
    let class? (negated : Bool) (s : CharSet) : Option (Escape × List Char) :=
      (negate? sw negated s).map fun s => (.set s, rest)
    if c = 'x' then (byteEscape? sw rest).map fun (d, r) => (.literal d, r)
    else if c = 'u' then (hexEscape? sw 4 rest).map fun (d, r) => (.literal d, r)
    else if c = 'U' then (hexEscape? sw 8 rest).map fun (d, r) => (.literal d, r)
    else if c = 'd' then class? false (.digits sw.ascii)
    else if c = 'D' then class? true (.digits sw.ascii)
    else if c = 's' then class? false (.spaces sw.ascii)
    else if c = 'S' then class? true (.spaces sw.ascii)
    else if c = 'w' then class? false (.wordChars sw.ascii)
    else if c = 'W' then class? true (.wordChars sw.ascii)
    else if c = 'p' || c = 'P' then
      if sw.ascii then none
      else
        (property? sw rest).map fun (s, r) =>
          (.set (CharSet.complIf (c = 'P') (complete sw s)), r)
    else if c = 'a' then some (.literal '\x07', rest)
    else if c = 'f' then some (.literal '\x0c', rest)
    else if c = 't' then some (.literal '\t', rest)
    else if c = 'n' then some (.literal '\n', rest)
    else if c = 'r' then some (.literal '\r', rest)
    else if c = 'v' then some (.literal '\x0b', rest)
    else if c = 'A' then some (.look .textStart, rest)
    else if c = 'z' then some (.look .textEnd, rest)
    else if c = 'B' then some (.look (.word .neither sw.ascii), rest)
    else if c = '<' then some (.look (.word .start sw.ascii), rest)
    else if c = '>' then some (.look (.word .stop sw.ascii), rest)
    else if c = 'b' then (namedEdge? sw rest).map fun (e, r) => (.look (.word e sw.ascii), r)
    else if Ascii.isAscii c && !c.isAlphanum then some (.literal c, rest)
    else none

end Pinpoint.PatternText
