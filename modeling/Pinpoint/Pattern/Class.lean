/-
  Classes in brackets: single characters, ranges, named classes, classes inside classes, and
  operations between all of these.

  Where case is ignored, each side of an operation and each pair of brackets is completed with case
  variants before a complement is taken.  A class also says how deep it nests, because a pattern
  that nests too deep is refused.

  1. Members of a class.
  2. Operations between the parts of a class.
  3. Classes.
-/
import Pinpoint.Pattern.Escape

namespace Pinpoint.PatternText

/-! ## Members of a class -/

/-- One member: a character, or a class of its own. -/
def classMember? (sw : Switches) : List Char → Option (Escape × List Char)
  | '\\' :: rest => do
    let (e, rest) ← escape? sw rest
    match e with
    | .look _ => none
    | e => some (e, rest)
  | c :: rest => some (.literal c, rest)
  | [] => none

/-- A range of characters; where only ASCII is known there are no others. -/
def span? (sw : Switches) (first last : Char) : Option CharSet :=
  if first ≤ last && !(sw.ascii && !Ascii.isAscii last) then some (.range first last) else none

/-- A member or a range between two characters. -/
def classRange? (sw : Switches) (s : List Char) : Option (CharSet × List Char) := do
  let alone? (e : Escape) : Option CharSet :=
    match e with
    | .literal c => span? sw c c
    | .set s => some s
    | .look _ => none
  let (first, rest) ← classMember? sw s
  match sw.skip rest with
  | '-' :: after =>
    let next := sw.skip after
    if next.head? = some ']' || next.head? = some '-' then return (← alone? first, '-' :: after)
    let (last, rest) ← classMember? sw next
    match first, last with
    | .literal a, .literal b => return (← span? sw a b, rest)
    | _, _ => none
  | rest => return (← alone? first, rest)

/-- A named ASCII class such as `[:alpha:]`, after its first bracket; none for other text.  Its set is
    none where it is no class that may stand here. -/
def namedClass? (sw : Switches) (s : List Char) : Option (Option CharSet × List Char) := do
  let ':' :: rest := s | none
  let negated := rest.head? = some '^'
  let rest := if negated then rest.tail else rest
  let set ← CharSet.asciiClass? (rest.takeWhile (· ≠ ':'))
  let ':' :: ']' :: rest := rest.dropWhile (· ≠ ':') | none
  return (negate? sw negated (complete sw set), rest)

/-! ## Operations between the parts of a class -/

/-- The operation between two parts of a class. -/
inductive SetOp
  | inter
  | diff
  | symmDiff
  deriving Repr, DecidableEq

/-- The set that an operation makes. -/
def SetOp.apply : SetOp → CharSet → CharSet → CharSet
  | inter => CharSet.inter
  | diff => CharSet.diff
  | symmDiff => CharSet.symmDiff

/-- A set and how deep the text nests that describes it. -/
structure NestedSet where
  set : CharSet
  depth : Nat
  deriving Repr, DecidableEq

/-- Members side by side: their set, how many they are, and how deep the deepest nests. -/
structure Members where
  set : CharSet
  count : Nat
  depth : Nat
  deriving Repr, DecidableEq

namespace Members

/-- No members yet. -/
def none : Members := ⟨.none, 0, 0⟩

/-- One more member. -/
def add (m : Members) (s : CharSet) (depth : Nat) : Members :=
  ⟨m.set.union s, m.count + 1, max m.depth depth⟩

/-- The members as one part of a class; several of them nest in it. -/
def part (m : Members) : NestedSet := ⟨m.set, if m.count ≤ 1 then m.depth else m.depth + 1⟩

/-- The part of a class before the last operation, joined with the members after it. -/
def joined (sw : Switches) (left : Option (NestedSet × SetOp)) (m : Members) : NestedSet :=
  match left with
  | Option.none => m.part
  | some (a, op) =>
    ⟨op.apply (complete sw a.set) (complete sw m.set), max a.depth m.part.depth + 1⟩

end Members

/-- Hyphens at the start of a class stand for themselves, and so does a bracket in first place. -/
def leadingMembers (sw : Switches) (s : List Char) : Members × List Char :=
  match s with
  | ']' :: rest => (Members.none.add (.single ']') 0, sw.skip rest)
  | s => hyphens s.length Members.none s
where
  /-- At most `bound` hyphens. -/
  hyphens : Nat → Members → List Char → Members × List Char
  | bound + 1, m, '-' :: rest => hyphens bound (m.add (.single '-') 0) (sw.skip rest)
  | _, m, s => (m, s)

/-! ## Classes -/

mutual

/-- A class in brackets, after the opening one; `bound` limits the number of steps. -/
def class? (sw : Switches) : Nat → List Char → Option (NestedSet × List Char)
  | 0, _ => none
  | bound + 1, s => do
    let s := sw.skip s
    let negated := s.head? = some '^'
    let s := if negated then sw.skip s.tail else s
    if s.isEmpty then none
    let (first, rest) := leadingMembers sw s
    let (inside, rest) ← classItems? sw bound none first rest
    return (⟨← negate? sw negated (complete sw inside.set), inside.depth + 1⟩, rest)

/-- The members of a class up to its closing bracket. -/
def classItems? (sw : Switches) :
    Nat → Option (NestedSet × SetOp) → Members → List Char → Option (NestedSet × List Char)
  | 0, _, _, _ => none
  | bound + 1, left, members, s =>
    let operation (op : SetOp) (rest : List Char) : Option (NestedSet × List Char) :=
      classItems? sw bound (some (members.joined sw left, op)) Members.none rest
    match sw.skip s with
    | [] => none
    | ']' :: rest => some (members.joined sw left, rest)
    | '&' :: '&' :: rest => operation .inter rest
    | '-' :: '-' :: rest => operation .diff rest
    | '~' :: '~' :: rest => operation .symmDiff rest
    | '[' :: rest => do
      let (inner, rest) ←
        match namedClass? sw rest with
        | some (set, rest) => set.map fun s => ((⟨s, 0⟩ : NestedSet), rest)
        | none => class? sw bound rest
      classItems? sw bound left (members.add inner.set inner.depth) rest
    | s => do
      let (set, rest) ← classRange? sw s
      classItems? sw bound left (members.add set 0) rest

end

end Pinpoint.PatternText
