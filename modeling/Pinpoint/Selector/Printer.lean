/-
  Writing a selector as text, and which selectors some text stands for.

  The written form is safe rather than short: a name starts with a backslash, so that no name is
  taken for a number, and every further character that is no name character gets one as well; the
  expected text of a test always stands between double quotes.

  1. Names, quoted texts, numbers.
  2. Conditions: `Component.written`.
  3. Alternatives and selectors: `Selector.written`, and `Selector.print` as text.
  4. `WellFormed`: what reading can answer.  Names are not empty, tags and attribute names are in
     lower case, a star or a tag only leads a compound, and every compound but the first of an
     alternative has a link.
-/
import Pinpoint.Selector.Reader

namespace Pinpoint

/-! ## Names, quoted texts, numbers -/

/-- A character of a name after the first one. -/
def writtenNameChar (c : Char) : List Char := if Reader.isNameChar c then [c] else ['\\', c]

/-- A name; the backslash before its first character is always there. -/
def writtenName (name : String) : List Char :=
  match name.toList with
  | [] => []
  | c :: cs => '\\' :: c :: cs.flatMap writtenNameChar

/-- A character between double quotes. -/
def writtenQuotedChar (c : Char) : List Char := if c = '"' || c = '\\' then ['\\', c] else [c]

/-- A text between double quotes. -/
def writtenQuoted (s : String) : List Char :=
  '"' :: (s.toList.flatMap writtenQuotedChar ++ ['"'])

/-- A number in decimal digits, after a minus sign if it is negative. -/
def writtenNumber (n : Int) : List Char :=
  if n < 0 then '-' :: Nat.toDigits 10 n.natAbs else Nat.toDigits 10 n.natAbs

/-- An expression `An+B`, both numbers written out and the second one always with a sign. -/
def Nth.written (e : Nth) : List Char :=
  writtenNumber e.a.toInt ++
    'n' :: ((if e.b.toInt < 0 then [] else ['+']) ++ writtenNumber e.b.toInt)

/-! ## Conditions -/

/-- The sign of a comparison. -/
def Comparison.sign : Comparison → List Char
  | .equals => ['=']
  | .includesWord => ['~', '=']
  | .equalsOrDash => ['|', '=']
  | .startsWith => ['^', '=']
  | .endsWith => ['$', '=']
  | .contains => ['*', '=']

/-- An attribute test, its brackets included. -/
def AttributeTest.written (t : AttributeTest) : List Char :=
  '[' :: writtenName t.name ++
    (match t.comparison with
     | none => []
     | some (op, expected) => op.sign ++ writtenQuoted expected) ++
    (if t.ignoreCase then [' ', 'i'] else []) ++ [']']

/-- A pseudo-class, its colon included. -/
def PseudoClass.written : PseudoClass → List Char
  | .root => ":root".toList
  | .empty => ":empty".toList
  | .firstChild => ":first-child".toList
  | .lastChild => ":last-child".toList
  | .onlyChild => ":only-child".toList
  | .nthChild e => ":nth-child(".toList ++ e.written ++ [')']
  | .nthLastChild e => ":nth-last-child(".toList ++ e.written ++ [')']

/-- One condition. -/
def Component.written : Component → List Char
  | .universal => ['*']
  | .tag name => writtenName name
  | .id value => '#' :: writtenName value
  | .className value => '.' :: writtenName value
  | .attribute test => test.written
  | .pseudo p => p.written

/-- The conditions of a compound, one after the other. -/
def Compound.written (c : Compound) : List Char := c.flatMap Component.written

/-! ## Alternatives and selectors -/

/-- What stands between a compound and the one on its left. -/
def Combinator.written : Combinator → List Char
  | .descendant => [' ']
  | .child => [' ', '>', ' ']

/-- A compound with the link before it. -/
def Part.written (p : Part) : List Char :=
  (p.combinator.getD .descendant).written ++ Compound.written p.compound

/-- An alternative; its first compound is written without a link. -/
def Complex.written : Complex → List Char
  | [] => []
  | p :: later => Compound.written p.compound ++ later.flatMap Part.written

/-- A selector: its alternatives with commas between them. -/
def Selector.written : Selector → List Char
  | [] => []
  | x :: later => Complex.written x ++ later.flatMap fun y => [',', ' '] ++ Complex.written y

/-- The text of a selector. -/
def Selector.print (s : Selector) : String := String.ofList s.written

/-! ## Well-formed selectors -/

/-- No ASCII letter in upper case. -/
def isLowerName (name : String) : Bool := name.toList.all fun c => !c.isUpper

/-- Names that are not empty, in lower case where reading makes them so, and no wish about case
    without a comparison. -/
def Component.WellFormed : Component → Prop
  | .tag name => name ≠ "" ∧ isLowerName name
  | .id value => value ≠ ""
  | .className value => value ≠ ""
  | .attribute t =>
    t.name ≠ "" ∧ isLowerName t.name ∧ (t.comparison = none → t.ignoreCase = false)
  | .universal | .pseudo _ => True

/-- The conditions that only lead a compound. -/
def Component.isLeading : Component → Bool
  | .universal | .tag _ => true
  | .id _ | .className _ | .attribute _ | .pseudo _ => false

/-- At least one condition, and at most the first of them a star or a tag. -/
def Compound.WellFormed (c : Compound) : Prop :=
  c ≠ [] ∧ (∀ x ∈ c, x.WellFormed) ∧ ∀ x ∈ c.tail, x.isLeading = false

/-- At least one compound, the first without a link and every other with one. -/
def Complex.WellFormed : Complex → Prop
  | [] => False
  | p :: later =>
    p.combinator = none ∧ Compound.WellFormed p.compound ∧
      ∀ q ∈ later, q.combinator ≠ none ∧ Compound.WellFormed q.compound

/-- At least one alternative, all of them well-formed. -/
def Selector.WellFormed (s : Selector) : Prop := s ≠ [] ∧ ∀ x ∈ s, Complex.WellFormed x

example : Selector.print [[⟨none, [.tag "li", .className "a b"]⟩,
      ⟨some .child, [.attribute ⟨"x", some (.startsWith, "\"q"), true⟩]⟩]]
    = "\\li.\\a\\ b > [\\x^=\"\\\"q\" i]" := by decide
example : Selector.print [[⟨none, [.pseudo (.nthChild ⟨-2, -7⟩)]⟩], [⟨none, [.universal]⟩]]
    = ":nth-child(-2n-7), *" := by decide
example : (Selector.parse ":nth-child(-2n-7), *").toOption
    = some [[⟨none, [.pseudo (.nthChild ⟨-2, -7⟩)]⟩], [⟨none, [.universal]⟩]] := by decide +kernel

end Pinpoint
