/-
  Blank text: the characters that count as white space in every script.
-/
import Pinpoint.Text.Ranges

namespace Pinpoint.Text

/-- The code points of the property White_Space. -/
def blankRanges : List (Nat × Nat) :=
  [(0x9, 0xd), (0x20, 0x20), (0x85, 0x85), (0xa0, 0xa0), (0x1680, 0x1680), (0x2000, 0x200a),
   (0x2028, 0x2029), (0x202f, 0x202f), (0x205f, 0x205f), (0x3000, 0x3000)]

/-- White space in any script. -/
def isSpace (c : Char) : Bool := inRanges blankRanges c

/-- A text of white space only, the empty text included. -/
def isBlankText (s : String) : Bool := s.toList.all isSpace

example : isBlankText " \t\u3000" = true ∧ isBlankText " x" = false ∧ isBlankText "\u200b" = false := by
  decide

end Pinpoint.Text
