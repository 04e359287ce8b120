/-
  Markup as an ordered tree: what a text of markup says, before it becomes a document.

  The top of the tree stands for the document, and only it and elements have children.
-/
namespace Pinpoint.Markup

/-- A piece of markup below the top. -/
inductive Item
  | doctype (name : String)
  | text (value : String)
  | comment (value : String)
  /-- An element by its local name, with the local names and the values of its attributes. -/
  | element (name : String) (attributes : List (String × String)) (children : List Item)
  /-- A processing instruction. -/
  | instruction (target : String) (data : String)
  deriving Repr

end Pinpoint.Markup

namespace Pinpoint

/-- The markup of a whole document: what stands at the top, in order. -/
structure Markup where
  items : List Markup.Item
  deriving Repr

end Pinpoint
