/-
  What a document keeps of its markup, and the markup that a tree shows.

  1. Attributes: one for a name, in the place of the first of that name, with the value of the last.
  2. What is kept: everything but processing instructions and texts of white space only; tags are
     in lower case.
  3. Reading a tree back: a node shows one item, with what its children show inside.
-/
import Pinpoint.Markup.Conversion

namespace Pinpoint

/-! ## What is kept -/

namespace Markup

/-- One attribute for each name, in the order of first occurrence, with the last value. -/
def lastValues : List (String × String) → List (String × String)
  | [] => []
  | (name, value) :: rest =>
    (name, (rest.reverse.lookup name).getD value) :: (lastValues rest).filter (·.1 ≠ name)

example : lastValues [("id", "a"), ("class", "b"), ("id", "c"), ("title", "d"), ("id", "e")]
    = [("id", "e"), ("class", "b"), ("title", "d")] := by decide

mutual

/-- What is kept of an item: the item, or nothing. -/
def Item.kept : Item → List Item
  | .doctype name => [.doctype name]
  | .text value => if Text.isBlankText value then [] else [.text value]
  | .comment value => [.comment value]
  | .element name attributes children =>
    [.element (Ascii.lower name) (lastValues attributes) (keptItems children)]
  | .instruction _ _ => []

/-- What is kept of some items. -/
def keptItems : List Item → List Item
  | [] => []
  | item :: rest => item.kept ++ keptItems rest

end

/-- What is kept of a markup. -/
def kept (m : Markup) : Markup := ⟨keptItems m.items⟩

example : keptItems [.text " \n", .element "UL" [("id", "a"), ("class", "x"), ("id", "b")]
      [.instruction "php" "x", .text "a", .text "\t", .comment ""]] =
    [.element "ul" [("id", "b"), ("class", "x")] [.text "a", .comment ""]] := by
  rfl

end Markup

/-! ## Reading back -/

/-- The name of an attribute as text, and its value. -/
def NameTable.pair (names : NameTable) (a : Attribute) : String × String :=
  (names.resolve a.name, a.value)

/-- The item of a node with this content, given the items inside.  Only an element may hold any, and
    the document node is no item. -/
def Content.item? (names : NameTable) : Content → List Markup.Item → Option Markup.Item
  | .element e, inside =>
    some (.element (names.resolve e.name) (e.attributes.map names.pair) inside)
  | .doctype name, [] => some (.doctype (names.resolve name))
  | .text value, [] => some (.text value)
  | .comment value, [] => some (.comment value)
  | _, _ => none

namespace Tree

/-- The items of the children of a node, in order; none where a child is no item.  At most `bound`
    levels are read. -/
def itemsBelow? (t : Tree) : Nat → NodeId → Option (List Markup.Item)
  | 0, _ => none
  | bound + 1, i =>
    (t.children i).mapM fun k => do
      let inside ← itemsBelow? t bound k
      let n ← t.node? k
      n.content.item? t.names inside

/-- The markup that a tree shows from its document node on.  A tree of `n` nodes has no more than
    `n` levels. -/
def markup? (t : Tree) : Option Markup := (t.itemsBelow? t.size root).map Markup.mk

end Tree

end Pinpoint
