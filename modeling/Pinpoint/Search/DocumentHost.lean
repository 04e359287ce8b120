/-
  Documents as hosts.

  1. A document as it is: names in lower case, the id and the class list that elements keep, the
     position and the lineage that the tree gives.
  2. A document seen through its attributes alone: names in upper case, the id and the classes
     read off the attributes each time.
-/
import Pinpoint.Search.Host
import Pinpoint.Selector.Query

namespace Pinpoint.Document

/-- The attributes of an element by name; none for a node that is no element. -/
def attributesOf (d : Document) (i : NodeId) : List (String × String) :=
  match d.tree.element? i with
  | none => []
  | some e => e.attributes.map fun a => (d.tree.names.resolve a.name, a.value)

/-- The element children of a node; without a node, the elements at the top. -/
def childrenOf (d : Document) (parent : Option NodeId) : List NodeId :=
  d.tree.elementChildren (parent.getD Tree.root)

/-- The matches in a scope. -/
def queryScope (d : Document) (selector : String) :
    Scope NodeId → Except SelectorError (List NodeId)
  | .document => d.queryAll Tree.root selector
  | .childrenOf parent => d.filterMatching (d.childrenOf parent) selector

/-- A document as a host. -/
def host (d : Document) : Host NodeId SelectorError where
  tagName i := (d.tree.tagName? i).getD ""
  attributes := d.attributesOf
  classes i := ((d.tree.element? i).map Element.classes).getD []
  id i := (d.tree.element? i).bind Element.id
  parent := d.tree.parentElement?
  children := d.childrenOf
  position := positionAmong d.tree.parentElement? d.childrenOf
  lineage := climb d.tree.parentElement? d.tree.size
  query := d.queryScope

/-- The classes written in an attribute, between single spaces; nothing is left out. -/
def spacedClasses (attributes : List (String × String)) : List String :=
  match attributes.find? fun a => a.1 == "class" with
  | none => []
  | some a => (Ascii.pieces (· = ' ') a.2.toList).map String.ofList

/-- A document seen through its attributes alone. -/
def attributeHost (d : Document) : Host NodeId SelectorError :=
  { d.host with
    tagName := fun i => Ascii.upper (d.host.tagName i)
    classes := fun i => spacedClasses (d.attributesOf i)
    id := fun i => idAmong (d.attributesOf i) }

end Pinpoint.Document
