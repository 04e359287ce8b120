/-
  The candidates for one element: every compound that its tokens can form, the best first.

  1. Groups: for each kind, the texts it can contribute, in the order they have in a compound.
  2. Mixes: every choice of groups, ranked by the mean place of their kinds in the order of
     preference; equal means leave smaller mixes first.
  3. The compounds of a mix: one text from each group, the earlier groups varying fastest.
-/
import Pinpoint.Search.Combination
import Pinpoint.Search.Ranking
import Pinpoint.Search.Token

namespace Pinpoint

/-! ## Groups -/

/-- The texts that one kind contributes. -/
abbrev Group := Kind × List String

/-- All groups, in the order of a compound: the tag leads and the place among siblings ends it. -/
def Tokens.allGroups (t : Tokens) (maxCombination : Nat) : List Group :=
  [(.tag, if t.tag.isEmpty then [] else [t.tag]),
   (.id, t.id.toList),
   (.className, joinedCombinations t.classes 1 maxCombination),
   (.attributes, joinedCombinations t.attributes 1 maxCombination),
   (.nthChild, t.nthChild.toList)]

/-- The groups of the given kinds that have something to contribute. -/
def Tokens.groups (t : Tokens) (maxCombination : Nat) (kinds : List Kind) : List Group :=
  (t.allGroups maxCombination).filter fun g => kinds.contains g.1 && !g.2.isEmpty

/-! ## Mixes -/

/-- A choice of groups. -/
abbrev Mix := List Group

/-- The sum of the ranks of the kinds in a mix. -/
def Options.rankSum (o : Options) (m : Mix) : Nat :=
  m.foldr (fun g n => o.rank g.1 + n) 0

/-- Is the mean rank of the first mix at most that of the second?  The fractions are compared
    without division. -/
def Options.ranksBefore (o : Options) (a b : Mix) : Bool :=
  o.rankSum a * b.length ≤ o.rankSum b * a.length

/-- All mixes of some groups, the best ranked first. -/
def Options.rankedMixes (o : Options) (groups : List Group) : List Mix :=
  ranked o.ranksBefore (combinations groups 1 groups.length)

/-! ## The compounds of a mix -/

/-- Each of the texts behind everything put together so far, which varies fastest; where there is
    nothing yet, the texts alone. -/
def continued (out texts : List String) : List String :=
  if out.isEmpty then texts else texts.flatMap fun t => out.map (· ++ t)

/-- Every way to take one text from each group, one after the other. -/
def compounds (lists : List (List String)) : List String := lists.foldl continued []

/-- The candidates that the given kinds allow, the best first. -/
def Tokens.candidates (t : Tokens) (o : Options) (kinds : List Kind) : List String :=
  (o.rankedMixes (t.groups o.maxCombination kinds)).flatMap fun m => compounds (m.map (·.2))

/-- All candidates of an element. -/
def Host.leafCandidates {E ε : Type} (h : Host E ε) (o : Options) (e : E) : List String :=
  (h.tokens o e).candidates o o.kinds

example :
    (Tokens.mk none "li" [".a"] [] (some ":first-child")).candidates .standard Kind.all
      = [".a", "li.a", ".a:first-child", "li.a:first-child", "li", "li:first-child",
         ":first-child"] := by decide +kernel

end Pinpoint
