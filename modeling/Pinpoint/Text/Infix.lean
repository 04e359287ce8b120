/-
  One text inside another.
-/
namespace Pinpoint.Text

/-- Does `w` occur in a text? -/
def occursIn (w : List Char) : List Char → Bool
  | [] => w.isEmpty
  | c :: cs => w.isPrefixOf (c :: cs) || occursIn w cs

example : occursIn "bc".toList "abcd".toList = true ∧ occursIn "ca".toList "abcd".toList = false := by
  decide

end Pinpoint.Text
