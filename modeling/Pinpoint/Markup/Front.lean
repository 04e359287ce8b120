/-
  What stands at the front of a text: blanks, words, and the place where a text is cut.

  Markup is read from the front, so each function here answers with what it has found and leaves
  the rest.
-/
import Pinpoint.Markup.Reference

namespace Pinpoint.Markup

/-- The blanks between the parts of a tag; line ends are unified before reading, so there are no
    carriage returns. -/
def isMarkupBlank (c : Char) : Bool := c = ' ' || c = '\t' || c = '\n' || c = '\x0c'

/-- A zero character is never shown as such. -/
def withoutZeros (s : List Char) : List Char :=
  s.map fun c => if c = '\x00' then replacementChar else c

/-- A name in lower case. -/
def tagNameOf (s : List Char) : String := String.ofList ((withoutZeros s).map Char.toLower)

/-- The rest of a text after a word, if the text starts with it up to ASCII case. -/
def afterWord? (word : String) (s : List Char) : Option (List Char) :=
  let front := s.take word.length
  if front.map Char.toLower = word.toList then some (s.drop word.length) else none

/-- What stands before the first place where a test succeeds, and what the test says there. -/
def splitAtFirst {α : Type} (test : List Char → Option α) : List Char → List Char × Option α
  | [] => ([], test [])
  | c :: rest =>
    match test (c :: rest) with
    | some a => ([], some a)
    | none =>
      let (before, found) := splitAtFirst test rest
      (c :: before, found)

/-- The rest after the first of some marks, if the text starts with one. -/
def afterMark? (marks : List String) (s : List Char) : Option (List Char) :=
  marks.findSome? fun m => afterWord? m s

/-- A text in quotes after blanks: what stands in the quotes, and the rest after them if they are
    closed; none where no quotes are. -/
def quoted? (s : List Char) : Option (String × Option (List Char)) :=
  match s.dropWhile isMarkupBlank with
  | c :: rest =>
    if c = '"' || c = '\'' then
      let value := rest.takeWhile (· ≠ c)
      some (String.ofList (withoutZeros value), (rest.drop value.length).tail?)
    else none
  | [] => none

example : afterWord? "public" "PUBLIC x".toList = some " x".toList := by decide
example : quoted? " 'a'b".toList = some ("a", some ['b']) := by decide
example : quoted? "'a".toList = some ("a", none) := by decide

end Pinpoint.Markup
