/-
  What a search may use: which kinds of tokens and in which order of preference, which attributes,
  which ids and classes are left out, and how many classes or attributes may be put together.

  1. Kinds and options.  The kinds are distinct and at least one token may be taken; every option
     value holds the two facts.
  2. Changing one option.
  3. Settings: options as a user writes them, each of them optional.
-/
import Pinpoint.Pattern
import Pinpoint.Text.Quoted

namespace Pinpoint

/-! ## Kinds and options -/

/-- The kinds of tokens that a selector is made of. -/
inductive Kind
  | id
  | className
  | attributes
  | tag
  | nthChild
  deriving Repr, DecidableEq

/-- Every kind, in the order of preference that holds when none is asked for. -/
def Kind.all : List Kind := [.id, .className, .attributes, .tag, .nthChild]

/-- The first of each group of equal items, in order. -/
def distinct {α : Type} [DecidableEq α] : List α → List α
  | [] => []
  | x :: xs => x :: (distinct xs).filter (· ≠ x)

theorem mem_distinct {α : Type} [DecidableEq α] {x : α} {xs : List α} :
    x ∈ distinct xs ↔ x ∈ xs := by
  induction xs with
  | nil => simp [distinct]
  | cons y ys ih =>
    by_cases h : x = y <;> simp [distinct, ih, h]

theorem nodup_distinct {α : Type} [DecidableEq α] (xs : List α) : (distinct xs).Nodup := by
  induction xs with
  | nil => simp [distinct]
  | cons y ys ih =>
    rw [distinct, List.nodup_cons]
    exact ⟨by simp, ih.filter _⟩

/-- The options of a search. -/
structure Options where
  /-- The kinds in use, the preferred ones first. -/
  kinds : List Kind
  /-- Which attributes may be used, by their names. -/
  attributes : List Pattern
  /-- Ids and classes that are left out. -/
  exclude : Option Pattern
  /-- The largest number of classes, and of attributes, taken together. -/
  maxCombination : Nat
  nodup_kinds : kinds.Nodup
  one_le_maxCombination : 1 ≤ maxCombination

/-- Why options are refused. -/
inductive OptionsError
  /-- A text that is no pattern. -/
  | invalidPattern (source : String)
  /-- A combination size below one. -/
  | invalidCombinationSize (size : Nat)
  deriving Repr, DecidableEq

/-- The wording of each cause.  A text that is no pattern is followed by the reason, in the words of
    the one who reads patterns. -/
def OptionsError.message (reason : String → String) : OptionsError → String
  | invalidPattern p => "invalid pattern " ++ Text.quoteText p ++ ": " ++ reason p
  | invalidCombinationSize n => "combination size must be at least 1, got " ++ toString n

namespace Options

/-- All kinds, no attributes, nothing left out, up to three tokens together. -/
def standard : Options where
  kinds := Kind.all
  attributes := []
  exclude := none
  maxCombination := 3
  nodup_kinds := by decide
  one_le_maxCombination := by decide

/-- Is an id or a class left out? -/
def isExcluded (o : Options) (value : String) : Bool := o.exclude.any (·.isMatch value)

/-- The levels of a search: the first kind alone, the first two, and so on. -/
def levels (o : Options) : List (List Kind) :=
  (List.range o.kinds.length).map fun n => o.kinds.take (n + 1)

/-- The place of a kind in the order of preference, counted from one; a kind that is not in use
    comes after all that are. -/
def rank (o : Options) (k : Kind) : Nat := o.kinds.idxOf k + 1

/-! ## Changing one option -/

/-- Use these kinds in this order; a kind named again keeps its first place. -/
def withKinds (o : Options) (kinds : List Kind) : Options :=
  { o with kinds := distinct kinds, nodup_kinds := nodup_distinct kinds }

/-- The pattern of a text, or the text as the cause of the refusal. -/
def compile (source : String) : Except OptionsError Pattern :=
  match Pattern.compile? source with
  | some p => .ok p
  | none => .error (.invalidPattern source)

/-- Use the attributes whose names match one of the patterns. -/
def withAttributes (o : Options) (sources : List String) : Except OptionsError Options := do
  let patterns ← sources.mapM compile
  return { o with attributes := patterns }

/-- Leave out the ids and classes that match. -/
def withExcluded (o : Options) (p : Pattern) : Options := { o with exclude := some p }

/-- Leave out the ids and classes that match the pattern of a text. -/
def withExclude (o : Options) (source : String) : Except OptionsError Options := do
  let p ← compile source
  return o.withExcluded p

/-- Take at most this many tokens together, but at least one. -/
def withMaxCombination (o : Options) (n : Nat) : Options :=
  { o with maxCombination := Nat.max n 1, one_le_maxCombination := Nat.le_max_right n 1 }

end Options

/-! ## Settings -/

/-- Options as written down: what is absent stays as it is in the standard options. -/
structure Settings where
  kinds : Option (List Kind)
  attributes : Option (List String)
  exclude : Option String
  maxCombination : Option Nat
  deriving Repr, DecidableEq

namespace Settings

/-- The options that settings ask for.  Settings are looked at in the order of their fields, and
    the first one refused decides. -/
def options (s : Settings) : Except OptionsError Options := do
  let o := match s.kinds with
    | some kinds => Options.standard.withKinds kinds
    | .none => Options.standard
  let o ← match s.attributes with
    | some sources => o.withAttributes sources
    | .none => pure o
  let o ← match s.exclude with
    | some source => o.withExclude source
    | .none => pure o
  match s.maxCombination with
  | some 0 => throw (.invalidCombinationSize 0)
  | some n => return o.withMaxCombination n
  | .none => return o

end Settings

end Pinpoint
