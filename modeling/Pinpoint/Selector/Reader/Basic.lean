/-
  The parts of a selector that stand between combinators: names, attribute tests, pseudo-classes.

  Every reader takes the characters still to be read and answers what it has read together with
  the rest, or the fault that stops the reading.  A fault holds the rest of the text from the
  character at fault on, so that the place of that character is a matter of counting, at the end.

  1. Character classes.
  2. Faults.
  3. Names and identifiers, with backslash escapes.
  4. Attribute tests and pseudo-classes.
  5. One condition of a compound.
-/
import Pinpoint.Selector.Basic
import Pinpoint.Selector.Error
import Pinpoint.Text.Blank

namespace Pinpoint.Reader

/-! ## Character classes -/

/-- ASCII letters and digits, `_`, `-`, and everything outside ASCII. -/
def isNameChar (c : Char) : Bool := c.isAlphanum || c = '_' || c = '-' || !Ascii.isAscii c

/-- What an identifier may start with; a backslash starts an escape. -/
def isIdentStart (c : Char) : Bool :=
  c.isAlpha || c = '_' || c = '-' || c = '\\' || !Ascii.isAscii c

/-! ## Faults -/

/-- Why reading stops. -/
inductive Fault
  /-- A character that cannot stand here; `after` is what follows it. -/
  | unexpected (found : Char) (after : List Char)
  | unexpectedEnd
  | invalidIdentifier (name : String)
  | unsupportedPseudoClass (name : String)
  | invalidNth (argument : String)
  deriving Repr, DecidableEq

/-- The fault of a reader that can do nothing with the rest. -/
def faultAt : List Char → Fault
  | [] => .unexpectedEnd
  | c :: after => .unexpected c after

/-- The rest after leading blanks. -/
def skipBlanks (s : List Char) : List Char := s.dropWhile Ascii.isBlank

/-- Read this very character. -/
def expect (c : Char) : List Char → Except Fault (List Char)
  | [] => .error .unexpectedEnd
  | d :: rest => if d = c then .ok rest else .error (.unexpected d rest)

/-! ## Names and identifiers -/

/-- Name characters as far as they go; a backslash makes a name character of whatever follows. -/
def nameChars : List Char → Except Fault (List Char × List Char)
  | [] => .ok ([], [])
  | ['\\'] => .error .unexpectedEnd
  | '\\' :: c :: rest => do
    let (cs, rest) ← nameChars rest
    return (c :: cs, rest)
  | c :: rest =>
    if isNameChar c then do
      let (cs, rest) ← nameChars rest
      return (c :: cs, rest)
    else .ok ([], c :: rest)

/-- A name: at least one name character. -/
def name (s : List Char) : Except Fault (String × List Char) := do
  let (cs, rest) ← nameChars s
  if cs.isEmpty then throw (faultAt rest) else return (String.ofList cs, rest)

/-- Does it start with a digit, or with a hyphen and a digit? -/
def startsLikeNumber : List Char → Bool
  | '-' :: c :: _ => c.isDigit
  | c :: _ => c.isDigit
  | [] => false

/-- An identifier: a name that starts like a number only by way of an escape. -/
def ident (s : List Char) : Except Fault (String × List Char) := do
  let (w, rest) ← name s
  if startsLikeNumber w.toList && s.head? ≠ some '\\' then throw (.invalidIdentifier w)
  else return (w, rest)

/-! ## Attribute tests and pseudo-classes -/

/-- The text up to the closing quote; a backslash takes the next character as it is. -/
def quoted (quote : Char) : List Char → Except Fault (List Char × List Char)
  | [] => .error .unexpectedEnd
  | c :: rest =>
    if c = quote then .ok ([], rest)
    else if c = '\\' then
      match rest with
      | [] => .error .unexpectedEnd
      | d :: rest => do
        let (cs, rest) ← quoted quote rest
        return (d :: cs, rest)
    else do
      let (cs, rest) ← quoted quote rest
      return (c :: cs, rest)

/-- The sign that starts a two-character comparison. -/
def comparisonSign? (c : Char) : Option Comparison :=
  if c = '~' then some .includesWord
  else if c = '|' then some .equalsOrDash
  else if c = '^' then some .startsWith
  else if c = '$' then some .endsWith
  else if c = '*' then some .contains
  else none

/-- The comparison sign of an attribute test. -/
def comparison : List Char → Except Fault (Comparison × List Char)
  | [] => .error .unexpectedEnd
  | c :: rest =>
    if c = '=' then .ok (.equals, rest)
    else
      match comparisonSign? c with
      | none => .error (.unexpected c rest)
      | some op => do
        let rest ← expect '=' rest
        return (op, rest)

/-- The expected text: quoted, or an identifier. -/
def attributeValue : List Char → Except Fault (String × List Char)
  | [] => .error .unexpectedEnd
  | c :: rest =>
    if c = '"' || c = '\'' then do
      let (cs, rest) ← quoted c rest
      return (String.ofList cs, rest)
    else ident (c :: rest)

/-- The letter that asks to ignore case, or to respect it; without a letter, case is respected. -/
def caseFlag : List Char → Bool × List Char
  | [] => (false, [])
  | c :: rest =>
    if c = 'i' || c = 'I' then (true, skipBlanks rest)
    else if c = 's' || c = 'S' then (false, skipBlanks rest)
    else (false, c :: rest)

/-- An attribute test, after its opening bracket. -/
def attributeTest (s : List Char) : Except Fault (AttributeTest × List Char) := do
  let (w, rest) ← ident (skipBlanks s)
  let attr := Ascii.lower w
  match skipBlanks rest with
  | ']' :: rest => return (⟨attr, none, false⟩, rest)
  | rest =>
    let (op, rest) ← comparison rest
    let (value, rest) ← attributeValue (skipBlanks rest)
    let (ignoreCase, rest) := caseFlag (skipBlanks rest)
    let rest ← expect ']' rest
    return (⟨attr, some (op, value), ignoreCase⟩, rest)

/-- The argument of a pseudo-class, in parentheses, if there is one. -/
def argument : List Char → Except Fault (Option String × List Char)
  | '(' :: rest => do
    let rest' ← expect ')' (rest.dropWhile (· ≠ ')'))
    return (some (String.ofList (rest.takeWhile (· ≠ ')'))), rest')
  | rest => .ok (none, rest)

/-- The `An+B` argument of a pseudo-class. -/
def nthArgument (argument : String) : Except Fault Nth :=
  match Nth.ofString? argument with
  | some e => .ok e
  | none => .error (.invalidNth argument)

/-- The pseudo-class of a name and its argument. -/
def pseudoClassOf (word : String) (argument : Option String) : Except Fault PseudoClass :=
  match argument with
  | none =>
    if word = "root" then .ok .root
    else if word = "empty" then .ok .empty
    else if word = "first-child" then .ok .firstChild
    else if word = "last-child" then .ok .lastChild
    else if word = "only-child" then .ok .onlyChild
    else .error (.unsupportedPseudoClass word)
  | some arg =>
    if word = "nth-child" then (nthArgument arg).map .nthChild
    else if word = "nth-last-child" then (nthArgument arg).map .nthLastChild
    else .error (.unsupportedPseudoClass word)

/-- A pseudo-class, after its colon. -/
def pseudoClass (s : List Char) : Except Fault (PseudoClass × List Char) := do
  let (w, rest) ← ident s
  let (arg, rest) ← argument rest
  let p ← pseudoClassOf (Ascii.lower w) arg
  return (p, rest)

/-! ## One condition -/

/-- A condition other than the leading tag, if one starts here. -/
def condition? : List Char → Option (Except Fault (Component × List Char))
  | '#' :: rest => some ((name rest).map fun (w, rest) => (.id w, rest))
  | '.' :: rest => some ((ident rest).map fun (w, rest) => (.className w, rest))
  | '[' :: rest => some ((attributeTest rest).map fun (t, rest) => (.attribute t, rest))
  | ':' :: rest => some ((pseudoClass rest).map fun (p, rest) => (.pseudo p, rest))
  | _ => none

end Pinpoint.Reader
