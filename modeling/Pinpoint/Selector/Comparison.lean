/-
  Comparing an attribute value with the expected text of a test.

  Where case is ignored, both texts are put into full lower case first, each as a whole.  An empty
  text starts, ends and is contained in no value.
-/
import Pinpoint.Selector.Basic
import Pinpoint.Text.Infix
import Pinpoint.Text.LowerCase

namespace Pinpoint

/-- Does the comparison hold between an expected text and a value, letter by letter? -/
def Comparison.holds (op : Comparison) (expected value : String) : Bool :=
  match op with
  | .equals => value == expected
  | .includesWord => (Ascii.words value).contains expected
  | .equalsOrDash => value == expected || (expected.toList ++ ['-']).isPrefixOf value.toList
  | .startsWith => expected.toList.isPrefixOf value.toList
  | .endsWith => expected.toList.isSuffixOf value.toList
  | .contains => Text.occursIn expected.toList value.toList

/-- Comparisons with a part of the value, which need an expected text that is not empty. -/
def Comparison.needsText : Comparison → Bool
  | .startsWith | .endsWith | .contains => true
  | .equals | .includesWord | .equalsOrDash => false

/-- The form in which texts are compared. -/
def AttributeTest.form (t : AttributeTest) (s : String) : String :=
  if t.ignoreCase then Text.lowerCase s else s

/-- Does an attribute with this value pass?  No value stands for an attribute that is not there. -/
def AttributeTest.accepts (t : AttributeTest) (value : Option String) : Bool :=
  match t.comparison, value with
  | none, v => v.isSome
  | some _, none => false
  | some (op, expected), some v =>
    !(op.needsText && expected.isEmpty) && op.holds (t.form expected) (t.form v)

example : (⟨"lang", some (.equalsOrDash, "en"), false⟩ : AttributeTest).accepts (some "en-GB") = true := by
  decide
example : (⟨"a", some (.contains, ""), false⟩ : AttributeTest).accepts (some "x") = false := by decide

end Pinpoint
