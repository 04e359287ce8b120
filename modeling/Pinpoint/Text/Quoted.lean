/-
  Text quoted in messages: one character between apostrophes, or a text between double quotes.

  A backslash and the quote that encloses are escaped by a backslash, the four common controls
  have letters, and what has no printed form is spelled by its code point in hexadecimal.
-/
import Pinpoint.Text.Escaped

namespace Pinpoint.Text

/-- The digits of `n` in lower-case hexadecimal, without leading zeros. -/
def hexDigits (n : Nat) : String := String.ofList (Nat.toDigits 16 n)

/-- One character inside quotes of the kind `quote`. -/
def escapeChar (quote c : Char) : String :=
  if c = '\x00' then "\\0"
  else if c = '\t' then "\\t"
  else if c = '\r' then "\\r"
  else if c = '\n' then "\\n"
  else if c = '\\' then "\\\\"
  else if c = quote then "\\" ++ String.singleton c
  else if isUnprintable c then "\\u\x7b" ++ hexDigits c.toNat ++ "\x7d"
  else String.singleton c

/-- A character between apostrophes. -/
def quoteChar (c : Char) : String := "'" ++ escapeChar '\'' c ++ "'"

/-- A text between double quotes. -/
def quoteText (s : String) : String :=
  "\"" ++ String.join (s.toList.map (escapeChar '"')) ++ "\""

example : quoteText "a\"'\n" = "\"a\\\"'\\n\"" ∧ quoteChar '\'' = "'\\''" := by decide +kernel

end Pinpoint.Text
