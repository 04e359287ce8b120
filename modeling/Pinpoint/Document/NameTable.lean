/-
  The table of the names in a tree: every distinct tag or attribute name is kept once and known
  by its place.

  1. `NameTable` and reading a place: an unknown place reads as the empty name.
  2. `intern`: the place of a name, adding it at the end when it is new.
-/
namespace Pinpoint

/-- The place of a name in the table. -/
abbrev NameId := Nat

/-- The names in order of first use. -/
structure NameTable where
  names : List String
  deriving Repr, DecidableEq

namespace NameTable

/-- The names every table starts with, the empty name first. -/
def standardNames : List String :=
  ["", "html", "head", "body", "div", "span", "p", "a", "img", "ul", "ol", "li", "table", "tr",
   "td", "form", "input", "button", "id", "class", "href", "src", "name", "type", "title", "role"]

/-- The table of a tree in which nothing has been named yet. -/
def standard : NameTable := ⟨standardNames⟩

/-- The name at a place; the empty name where the table has none. -/
def resolve (t : NameTable) (i : NameId) : String := (t.names[i]?).getD ""

/-- The place of a name, if the table holds it. -/
def find? (t : NameTable) (name : String) : Option NameId := t.names.idxOf? name

/-- The place of a name; a new name takes the next free place. -/
def intern (t : NameTable) (name : String) : NameId × NameTable :=
  match t.find? name with
  | some i => (i, t)
  | none => (t.names.length, ⟨t.names ++ [name]⟩)

/-- The number of distinct names. -/
def size (t : NameTable) : Nat := t.names.length

example : (standard.intern "td").1 = 14 ∧ (standard.intern "x").1 = 26 := by decide
example : (standard.intern "x").2.resolve 26 = "x" ∧ standard.resolve 26 = "" := by decide

end NameTable

end Pinpoint
