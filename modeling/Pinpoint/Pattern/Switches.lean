/-
  The switches of a pattern, such as `(?i)`, which hold from where they stand to the end of the group.
-/
import Pinpoint.Text.Blank

namespace Pinpoint.PatternText

/-- The switches in force. -/
structure Switches where
  ignoreCase : Bool
  multiLine : Bool
  dotAll : Bool
  /-- A carriage return also ends a line. -/
  anyLineEnd : Bool
  /-- Blanks and comments between the tokens do not count. -/
  spaced : Bool
  /-- Classes and word edges know ASCII only. -/
  ascii : Bool
  deriving Repr, DecidableEq

/-- Nothing switched on. -/
def Switches.off : Switches := ⟨false, false, false, false, false, false⟩

/-- The rest after blanks and comments. -/
def skipBlanks (s : List Char) : List Char := skip s.length s
where
  /-- At most `bound` blanks and comments. -/
  skip : Nat → List Char → List Char
  | 0, s => s
  | bound + 1, s =>
    match s.dropWhile Text.isSpace with
    | '#' :: rest => skip bound (rest.dropWhile (· ≠ '\n'))
    | rest => rest

/-- The rest after blanks and comments, where they do not count. -/
def Switches.skip (sw : Switches) (s : List Char) : List Char :=
  if sw.spaced then skipBlanks s else s

/-- The first characters that pass a test, at most `bound` of them, and the rest; blanks and comments
    between them are skipped where they do not count. -/
def Switches.take (sw : Switches) (test : Char → Bool) : Nat → List Char → List Char × List Char
  | bound + 1, c :: rest =>
    if test c then
      let (more, rest) := sw.take test bound (sw.skip rest)
      (c :: more, rest)
    else ([], c :: rest)
  | _, s => ([], s)

example : (Switches.off.take Char.isDigit 5 "12a".toList) = (['1', '2'], ['a']) := by decide

end Pinpoint.PatternText
