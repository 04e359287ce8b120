/-
  What an element carries: its name, its attributes, and the two values that selectors ask for
  most often, the id and the class list, kept beside the attributes.

  `setAttribute` is the only way to write an attribute, and it writes the kept values with it.
-/
import Pinpoint.Document.NameTable
import Pinpoint.Text.Ascii

namespace Pinpoint

/-- One attribute: a name and its value. -/
structure Attribute where
  name : NameId
  value : String
  deriving Repr, DecidableEq

/-- The data of an element. -/
structure Element where
  name : NameId
  /-- In order of first setting, one entry for a name. -/
  attributes : List Attribute
  /-- The value last set under the name "id". -/
  id : Option String
  /-- The words of the value last set under the name "class". -/
  classes : List String
  deriving Repr, DecidableEq

namespace Element

/-- An element without attributes. -/
def named (name : NameId) : Element := ⟨name, [], none, []⟩

/-- Replace the value of the first attribute of that name; a new name goes to the end. -/
def putAttribute (name : NameId) (value : String) : List Attribute → List Attribute
  | [] => [⟨name, value⟩]
  | a :: rest =>
    if a.name = name then ⟨name, value⟩ :: rest else a :: putAttribute name value rest

/-- Set an attribute; `spelling` is the name as text and decides whether the id or the class list
    changes with it. -/
def setAttribute (e : Element) (name : NameId) (spelling value : String) : Element :=
  { e with
    attributes := putAttribute name value e.attributes
    id := if spelling = "id" then some value else e.id
    classes := if spelling = "class" then Ascii.words value else e.classes }

/-- Does the class list hold this class? -/
def hasClass (e : Element) (c : String) : Bool := e.classes.contains c

example : ((named 4).setAttribute 19 "class" " a  b ").classes = ["a", "b"] := by decide

end Element

end Pinpoint
