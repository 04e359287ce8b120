/-
  Document types: the declaration in front of a document that says which markup it holds.

  A declaration ends at the first angle, even inside quotes.  Some declarations announce old markup,
  in which a table may stand inside a paragraph; which ones is a matter of a list of public
  identifiers, of which only the front counts.

  1. Reading a declaration.
  2. Which declarations announce old markup.
-/
import Pinpoint.Markup.Front
import Pinpoint.Text.Ascii

namespace Pinpoint.Markup

/-! ## Reading a declaration -/

/-- A document type.  A broken one has been cut short, or holds what does not belong there. -/
structure DocumentType where
  name : String
  publicId : Option String
  systemId : Option String
  broken : Bool
  deriving Repr, DecidableEq

namespace DocumentType

/-- The place of the definition, which comes last: what follows it does not matter, but a
    declaration whose angle is missing right after it is broken. -/
def systemPart (closed : Bool) (found : String × Option (List Char)) : String × Bool :=
  match found with
  | (systemId, none) => (systemId, true)
  | (systemId, some rest) => (systemId, rest.all isMarkupBlank && !closed)

/-- The identifiers after the name, and whether they are broken.  `closed` says whether an angle
    ends the declaration. -/
def externalIds (closed : Bool) (s : List Char) : Option String × Option String × Bool :=
  let s := s.dropWhile isMarkupBlank
  if s.isEmpty then (none, none, !closed)
  else
    match afterWord? "public" s, afterWord? "system" s with
    | some rest, _ =>
      match quoted? rest with
      | none => (none, none, true)
      | some (publicId, none) => (some publicId, none, true)
      | some (publicId, some rest) =>
        match quoted? rest with
        | some found =>
          let (systemId, broken) := systemPart closed found
          (some publicId, some systemId, broken)
        | none => (some publicId, none, !(closed && rest.all isMarkupBlank))
    | none, some rest =>
      match quoted? rest with
      | none => (none, none, true)
      | some found =>
        let (systemId, broken) := systemPart closed found
        (none, some systemId, broken)
    | none, none => (none, none, true)

/-- A declaration after its keyword, and the rest of the text. -/
def read (s : List Char) : DocumentType × List Char :=
  let body := s.takeWhile (· ≠ '>')
  let after := (s.drop body.length).tail?
  let body := body.dropWhile isMarkupBlank
  let name := body.takeWhile (fun c => !isMarkupBlank c)
  let (publicId, systemId, broken) := externalIds after.isSome (body.drop name.length)
  (⟨tagNameOf name, publicId, systemId, broken || name.isEmpty⟩, after.getD [])

/-! ## Which declarations announce old markup -/

/-- What the public identifiers of old markup start with: whom they belong to, and what they name,
    in lower case. -/
def oldIdentifiers : List (String × List String) :=
  [("advasoft ltd", ["dtd html 3.0 aswedit + extensions"]),
   ("as", ["dtd html 3.0 aswedit + extensions"]),
   ("ietf",
    ["dtd html 2.0 level 1", "dtd html 2.0 level 2", "dtd html 2.0 strict level 1",
     "dtd html 2.0 strict level 2", "dtd html 2.0 strict", "dtd html 2.0", "dtd html 2.1e",
     "dtd html 3.0", "dtd html 3.2 final", "dtd html 3.2", "dtd html 3", "dtd html level 0",
     "dtd html level 1", "dtd html level 2", "dtd html level 3", "dtd html strict level 0",
     "dtd html strict level 1", "dtd html strict level 2", "dtd html strict level 3",
     "dtd html strict", "dtd html"]),
   ("metrius", ["dtd metrius presentational"]),
   ("microsoft",
    ["dtd internet explorer 2.0 html strict", "dtd internet explorer 2.0 html",
     "dtd internet explorer 2.0 tables", "dtd internet explorer 3.0 html strict",
     "dtd internet explorer 3.0 html", "dtd internet explorer 3.0 tables"]),
   ("netscape comm. corp.", ["dtd html", "dtd strict html"]),
   ("o'reilly and associates",
    ["dtd html 2.0", "dtd html extended 1.0", "dtd html extended relaxed 1.0"]),
   ("softquad software", ["dtd hotmetal pro 6.0::19990601::extensions to html 4.0"]),
   ("softquad", ["dtd hotmetal pro 4.0::19971010::extensions to html 4.0"]),
   ("spyglass", ["dtd html 2.0 extended"]),
   ("sq", ["dtd html 2.0 hotmetal + extensions"]),
   ("sun microsystems corp.", ["dtd hotjava html", "dtd hotjava strict html"]),
   ("w3c",
    ["dtd html 3 1995-03-24", "dtd html 3.2 draft", "dtd html 3.2 final", "dtd html 3.2",
     "dtd html 3.2s draft", "dtd html 4.0 frameset", "dtd html 4.0 transitional",
     "dtd html experimental 19960712", "dtd html experimental 970421", "dtd w3 html"]),
   ("w3o", ["dtd w3 html 3.0"]),
   ("webtechs", ["dtd mozilla html 2.0", "dtd mozilla html"])]

/-- Public identifiers of old markup that count as a whole, in lower case. -/
def oldWholeIdentifiers : List String :=
  ["-//w3o//dtd w3 html strict 3.0//en//", "-/w3c/dtd html 4.0 transitional/en", "html"]

/-- What some public identifiers start with which count as old where no place of the definition is
    given. -/
def oldIdentifiersAlone : List (String × List String) :=
  [("w3c", ["dtd html 4.01 frameset", "dtd html 4.01 transitional"])]

/-- Does a public identifier start like one of these? -/
def startsLike (table : List (String × List String)) (publicId : String) : Bool :=
  table.any fun (owner, names) =>
    names.any fun name =>
      ("-//" ++ owner ++ "//" ++ name ++ "//").toList.isPrefixOf publicId.toList

/-- The one place of a definition that announces old markup. -/
def isOldPlace (systemId : String) : Bool :=
  (afterWord? "http:" systemId.toList).any fun rest =>
    Ascii.lower (String.ofList rest) = "//www.ibm.com/data/dtd/v11/ibmxhtml1-transitional.dtd"

/-- Does the document type announce old markup? -/
def isOld (t : DocumentType) : Bool :=
  t.broken || t.name ≠ "html" || t.systemId.any isOldPlace ||
    (t.publicId.map Ascii.lower).any fun p =>
      oldWholeIdentifiers.contains p || startsLike oldIdentifiers p ||
        (t.systemId.isNone && startsLike oldIdentifiersAlone p)

example : ((read " html>x".toList).1.isOld, (read " html>x".toList).2) = (false, ['x']) := by decide
example : (read " html public 'a>".toList).1 = ⟨"html", some "a", none, true⟩ := by decide
example : (read " html system 'a' b>".toList).1 = ⟨"html", none, some "a", false⟩ := by decide

end DocumentType

end Pinpoint.Markup
