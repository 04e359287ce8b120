/-
  How large the automaton of an expression is, in bytes.

  An expression is taken for a pattern only up to a limit, which holds for the automaton that reads
  forward and for the one that reads backward.  A repetition makes one copy for each time, so the
  size is worked out from the sizes of the parts and the automaton is never built.

  What decides the size is not the expression as it is written: empty parts of a row vanish,
  characters in a row make one word, and a choice between single characters is a set.

  1. Sizes.
  2. Forms of expressions.
  3. Words, and choices between words, which share their fronts or their ends.
  4. Rows, choices, and repetitions.
  5. The size of an expression.
-/
import Pinpoint.Pattern.Encoding
import Pinpoint.Pattern.Expr

namespace Pinpoint

/-! ## Sizes -/

/-- The sizes of the two automata in bytes. -/
structure PatternSize where
  forward : Nat
  backward : Nat
  deriving Repr, DecidableEq

namespace PatternSize

instance : Add PatternSize := ⟨fun a b => ⟨a.forward + b.forward, a.backward + b.backward⟩⟩

/-- The same size in both directions. -/
def both (n : Nat) : PatternSize := ⟨n, n⟩

/-- The size of some copies. -/
def copies (n : Nat) (s : PatternSize) : PatternSize := ⟨n * s.forward, n * s.backward⟩

/-- The sum of some sizes. -/
def total (sizes : List Nat) : Nat := sizes.foldr (· + ·) 0

/-- A state without a list of its own. -/
def plainState : Nat := 32

/-- A state that goes on by one of `n` ranges. -/
def rangesState (n : Nat) : Nat := plainState + 8 * n

/-- A state that goes on in one of `n` ways without reading. -/
def choiceState (n : Nat) : Nat := plainState + 4 * n

/-- What an automaton can have at most. -/
def limit : Nat := 10 * 1024 * 1024

/-- What stands around the automaton of an expression: the search for a place to start, the match as
    a whole, and its end. -/
def frame : PatternSize :=
  let search := choiceState 2 + rangesState 1 + plainState
  ⟨search + 3 * plainState, search + plainState⟩

end PatternSize

open PatternSize

/-! ## Forms of expressions -/

/-- What an expression comes down to. -/
inductive PatternForm
  | empty
  | word (cs : List Char)
  | set (s : CharSet)
  /-- A choice between at least two forms. -/
  | choice (branches : List PatternForm) (size : PatternSize) (consumes staysPut : Bool)
  /-- Anything else: its size, whether each match holds a character, and whether none does. -/
  | other (size : PatternSize) (consumes staysPut : Bool)

namespace PatternForm

/-- The size of a set. -/
def setSize (s : CharSet) : PatternSize :=
  if s.isAscii then both (rangesState s.ranges.length + plainState)
  else
    let sequences := Encoding.sequences s
    let (states, transitions) := Encoding.forwardSize sequences
    ⟨states * plainState + 8 * transitions + plainState,
      choiceState sequences.length + plainState +
        plainState * Encoding.frontCount [] sequences⟩

/-- The size of a form. -/
def size : PatternForm → PatternSize
  | empty => both plainState
  | word cs => both (plainState * total (cs.map Encoding.byteCount))
  | set s => setSize s
  | choice _ size _ _ => size
  | other size _ _ => size

/-- Does each match hold a character?  A set without members has no match and counts as no. -/
def consumes : PatternForm → Bool
  | empty => false
  | word _ => true
  | set s => !s.ranges.isEmpty
  | choice _ _ c _ => c
  | other _ c _ => c

/-- Does no match hold a character? -/
def staysPut : PatternForm → Bool
  | empty => true
  | word _ => false
  | set _ => false
  | choice _ _ _ p => p
  | other _ _ p => p

/-- The form of a set; a set of one character is a word. -/
def ofSet (s : CharSet) : PatternForm :=
  match s.ranges with
  | [(a, b)] => if a = b then word [Char.ofNat a] else set s
  | _ => set s

/-! ## Words -/

/-- Words that go on after a first byte, taken together by that byte, the byte met first in front. -/
def byFirst : List (List UInt8) → List (UInt8 × List (List UInt8))
  | [] => []
  | [] :: rest => byFirst rest
  | (b :: tail) :: rest =>
    let more := byFirst rest
    match more.lookup b with
    | some tails => (b, tail :: tails) :: more.filter (·.1 ≠ b)
    | none => (b, [tail]) :: more

/-- Words cut where one of them ends, because what comes later is tried later. -/
def chunks : List (List UInt8) → List (List (List UInt8))
  | [] => [[]]
  | [] :: rest => [] :: chunks rest
  | w :: rest =>
    match chunks rest with
    | c :: more => (w :: c) :: more
    | [] => [[w]]

/-- The size of a tree of words of at most `depth` bytes, its end not counted.  Words with a common
    front share it, and words that end at the same place share nothing else. -/
def treeSize : Nat → List (List UInt8) → Nat
  | 0, _ => 0
  | depth + 1, words =>
    let parts := chunks words
    let sizes := parts.map fun part =>
      let branches := byFirst part
      let own :=
        match branches.length with
        | 0 => 0
        | 1 => plainState
        | n => rangesState n
      own + total (branches.map fun (_, tails) =>
        if tails.all List.isEmpty then 0 else treeSize depth tails)
    let ways := (parts.filter fun part => !part.isEmpty).length + (parts.length - 1)
    total sizes + (if ways = 1 then 0 else choiceState ways)

/-- The bytes of a word. -/
def bytes (cs : List Char) : List UInt8 := cs.flatMap String.utf8EncodeChar

/-- The size of a choice between words. -/
def wordsSize (words : List (List Char)) : PatternSize :=
  let words := words.map bytes
  let depth := (words.map List.length).foldl max 0 + 1
  ⟨plainState + treeSize depth words, plainState + treeSize depth (words.map List.reverse)⟩

/-! ## Rows, choices, and repetitions -/

/-- One form after another. -/
def seq : PatternForm → PatternForm → PatternForm
  | empty, b => b
  | a, empty => a
  | word s, word t => word (s ++ t)
  | a, b => other (a.size + b.size) (a.consumes || b.consumes) (a.staysPut && b.staysPut)

/-- The alternatives of a form. -/
def branches : PatternForm → List PatternForm
  | choice branches _ _ _ => branches
  | f => [f]

/-- The set of a form of one character. -/
def set? : PatternForm → Option CharSet
  | set s => some s
  | word [c] => some (CharSet.single c)
  | _ => none

/-- The word of a form. -/
def word? : PatternForm → Option (List Char)
  | word cs => some cs
  | _ => none

/-- A choice between at least two forms that are no choices themselves. -/
def ofAlternatives (forms : List PatternForm) : PatternForm :=
  match forms.mapM set?, forms.mapM word? with
  | some sets, _ => ofSet (sets.foldl CharSet.union .none)
  | none, some words => choice forms (wordsSize words) true false
  | none, none =>
    let size := (forms.map size).foldl (· + ·) (both (choiceState forms.length + plainState))
    choice forms size (forms.all consumes) (forms.all staysPut)

/-- A choice between forms, where a single one is no choice. -/
def ofBranches : List PatternForm → PatternForm
  | [f] => f
  | forms => ofAlternatives (forms.flatMap branches)

/-- A repetition of a form.  What stays where it is need not be repeated more than once. -/
def repeated (min : Nat) (max : Option Nat) (f : PatternForm) : PatternForm :=
  let (min, max) :=
    if f.staysPut then (Nat.min min 1, some ((max.map (Nat.min 1)).getD 1)) else (min, max)
  let s := f.size
  let step := both (choiceState 2)
  let rest := both plainState
  let made (size : PatternSize) : PatternForm :=
    other size (0 < min && f.consumes) f.staysPut
  match min, max with
  | 0, some 0 => empty
  | 1, some 1 => f
  | 0, some 1 => made (s + step + rest)
  | 0, none => made (if f.consumes then s + step else s + step + step + rest)
  | n + 1, none => made (copies (n + 1) s + step)
  | n, some m =>
    let exact := if n = 0 then rest else copies n s
    if n = m then made exact else made (exact + copies (m - n) (s + step) + rest)

end PatternForm

/-! ## The size of an expression -/

namespace Expr

/-- The forms of the alternatives of an expression. -/
def forms : Expr → List PatternForm
  | empty => [.empty]
  | one s => [.ofSet s]
  | look _ => [.other (both plainState) false true]
  | seq a b => [.seq (.ofBranches a.forms) (.ofBranches b.forms)]
  | alt a b => a.forms ++ [.ofBranches b.forms]
  | rep min max e => [.repeated min max (.ofBranches e.forms)]
  | group numbered e =>
    let f := PatternForm.ofBranches e.forms
    [if numbered then .other (f.size + ⟨2 * plainState, 0⟩) f.consumes f.staysPut else f]

/-- Is the automaton of the expression small enough in both directions? -/
def isSmall (e : Expr) : Bool :=
  let size := (PatternForm.ofBranches e.forms).size + frame
  size.forward ≤ limit && size.backward ≤ limit

end Expr

end Pinpoint
