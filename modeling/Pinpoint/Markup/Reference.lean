/-
  Character references: `&name;`, `&#number;` and `&#xnumber;`.

  A reference that makes no sense is text like any other.

  1. References by number.
  2. References by name: the longest name counts; inside an attribute value, a name without a
     semicolon does not count where the text goes on like a word.
  3. Texts with references.
-/
import Pinpoint.Markup.NamedCharacter

namespace Pinpoint.Markup

/-! ## References by number -/

/-- The character that stands for what cannot be shown. -/
def replacementChar : Char := '\ufffd'

/-- What the numbers from 0x80 on stand for in old markup; zero where nothing else is meant. -/
def controlReplacements : List Nat :=
  [0x20ac, 0, 0x201a, 0x192, 0x201e, 0x2026, 0x2020, 0x2021, 0x2c6, 0x2030, 0x160, 0x2039, 0x152,
   0, 0x17d, 0, 0, 0x2018, 0x2019, 0x201c, 0x201d, 0x2022, 0x2013, 0x2014, 0x2dc, 0x2122, 0x161,
   0x203a, 0x153, 0, 0x17e, 0x178]

/-- The character of a number. -/
def numberedChar (n : Nat) : Char :=
  if n = 0 ∨ 0x10ffff < n ∨ (0xd800 ≤ n ∧ n < 0xe000) then replacementChar
  else if 0x80 ≤ n ∧ n < 0xa0 then
    match controlReplacements[n - 0x80]? with
    | some m => Char.ofNat (if m = 0 then n else m)
    | none => Char.ofNat n
  else Char.ofNat n

/-- Decimal or hexadecimal digits. -/
def isDigitOf (hex : Bool) (c : Char) : Bool :=
  c.isDigit || (hex && (('a' ≤ c && c ≤ 'f') || ('A' ≤ c && c ≤ 'F')))

/-- The value of a digit. -/
def digitValue (c : Char) : Nat :=
  if c.isDigit then c.toNat - '0'.toNat else c.toLower.toNat - 'a'.toNat + 10

/-- The rest after a semicolon, if there is one. -/
def skipSemicolon : List Char → List Char
  | ';' :: rest => rest
  | s => s

/-- A reference by number, after the number sign. -/
def numbered? (s : List Char) : Option (List Char × List Char) :=
  let hex := s.head? = some 'x' || s.head? = some 'X'
  let s := if hex then s.tail else s
  let digits := s.takeWhile (isDigitOf hex)
  if digits.isEmpty then none
  else
    let n := digits.foldl (fun n c => (if hex then 16 else 10) * n + digitValue c) 0
    some ([numberedChar n], skipSemicolon (s.drop digits.length))

/-- Does the text start with a reference by number that lacks its semicolon? -/
def startsWithOpenNumber (s : List Char) : Bool :=
  match s with
  | '&' :: '#' :: rest =>
    let hex := rest.head? = some 'x' || rest.head? = some 'X'
    let rest := if hex then rest.tail else rest
    (rest.head?.any (isDigitOf hex)) && (rest.dropWhile (isDigitOf hex)).head? ≠ some ';'
  | _ => false

/-! ## References by name -/

/-- The longest known name at the start of a text, with or without its semicolon, and what it
    stands for. -/
def longestName? (s : List Char) : Option (List Char × List Char) :=
  let word := s.takeWhile Char.isAlphanum
  let closed := s.drop word.length |>.head? |> (· = some ';')
  let known (name : String) : Option String := (NamedCharacter.all.find? (·.1 = name)).map (·.2)
  match if closed then known (String.ofList word) else none with
  | some text => some (word ++ [';'], text.toList)
  | none =>
    let fitting := NamedCharacter.unterminated.filter fun n => n.toList.isPrefixOf s
    let longest := fitting.foldl (fun a b => if a.length < b.length then b else a) ""
    if longest.isEmpty then none else (known longest).map fun text => (longest.toList, text.toList)

/-- A reference by name, after the ampersand. -/
def named? (inAttribute : Bool) (s : List Char) : Option (List Char × List Char) := do
  let (name, text) ← longestName? s
  let rest := s.drop name.length
  let goesOn := (rest.head?.map fun c => c = '=' || c.isAlphanum).getD false
  if inAttribute && name.getLast? ≠ some ';' && goesOn then none else some (text, rest)

/-! ## Texts with references -/

/-- The text of a reference after its ampersand, and the rest. -/
def reference? (inAttribute : Bool) (s : List Char) : Option (List Char × List Char) :=
  match s with
  | '#' :: rest => numbered? rest
  | _ => named? inAttribute s

/-- A text with its references replaced; `bound` is at least its length. -/
def resolveWithin (inAttribute : Bool) : Nat → List Char → List Char
  | 0, s => s
  | _, [] => []
  | bound + 1, c :: rest =>
    match if c = '&' then reference? inAttribute rest else none with
    | some (text, rest) => text ++ resolveWithin inAttribute bound rest
    | none => c :: resolveWithin inAttribute bound rest

/-- A text with its references replaced. -/
def resolveReferences (inAttribute : Bool) (s : List Char) : List Char :=
  if s.contains '&' then resolveWithin inAttribute s.length s else s

end Pinpoint.Markup
