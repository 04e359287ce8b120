/-
  The elements of a document by themselves.

  Text, comments and nodes that hang nowhere are no part of the element tree, and neither is the
  order in which the nodes were made.  Two documents with the same element tree may differ in all
  of that.

  1. `ElementOrder`: document order by element children alone.  **Where elements hang from elements
     or from the document, it is the order of the document** (`InOrder.elementOrder`).
  2. `SameElements`: the attached elements of one document go by other names in another, where they
     carry the same data and hang in the same places.
  3. **Then the walks agree**: all elements in order, ancestors, positions.
-/
import Mathlib.Data.Set.Function
import Pinpoint.Proofs.Document.Descendants
import Pinpoint.Search.DocumentHost

namespace Pinpoint

/-- Counterparts stand in the same places: a list and the list of counterparts are looked through
    alike. -/
theorem idxOf?_map_of_injOn {α β : Type} [DecidableEq α] [DecidableEq β] {f : α → β} {A : Set α}
    (hf : Set.InjOn f A) {l : List α} (hl : ∀ b ∈ l, b ∈ A) {a : α} (ha : a ∈ A) :
    (l.map f).idxOf? (f a) = l.idxOf? a := by
  induction l with
  | nil => rfl
  | cons b l ih =>
    obtain ⟨hb, hl⟩ := List.forall_mem_cons.1 hl
    rw [List.map_cons, List.idxOf?_cons, List.idxOf?_cons, ih hl]
    simp only [beq_iff_eq, hf.eq_iff hb ha]

/-! ## Order of elements

  Document order goes down by all children.  By element children alone the same elements come in the
  same order, as long as no element hangs from a text or a comment. -/

namespace Tree

variable {t : Tree}

/-- `out` lists the elements `nodes` and the elements below them, going down by element children. -/
inductive ElementOrder (t : Tree) : (nodes out : List NodeId) → Prop
  | nil : ElementOrder t [] []
  | cons {i : NodeId} {nodes below later : List NodeId}
      (hb : ElementOrder t (t.elementChildren i) below) (hl : ElementOrder t nodes later) :
      ElementOrder t (i :: nodes) (i :: (below ++ later))

/-- Some nodes have one such order at most. -/
theorem ElementOrder.unique {nodes out out' : List NodeId} (h : t.ElementOrder nodes out)
    (h' : t.ElementOrder nodes out') : out = out' := by
  induction h generalizing out' with
  | nil => cases h'; rfl
  | cons _ _ ihb ihl =>
    cases h' with
    | cons hb hl => rw [ihb hb, ihl hl]

/-- The elements among some nodes are in their order. -/
theorem InOrder.mem_of_isElement {nodes out : List NodeId} (h : t.InOrder nodes out) :
    ∀ i ∈ nodes, t.isElement i = true → i ∈ out := by
  induction h with
  | nil => exact fun i hi => absurd hi List.not_mem_nil
  | cons _ _ _ ihl =>
    intro j hj hel
    rcases List.mem_cons.1 hj with rfl | hj
    · rw [if_pos hel]
      simp
    · exact List.mem_append_right _ (ihl j hj hel)

/-- **Nothing is lost by looking at elements alone**, where the parent of an element is the document
    node or an element.  Below a text or a comment there is then no element, so leaving such nodes
    out leaves out no element with them. -/
theorem InOrder.elementOrder (ht : t.Reachable) (hroot : ¬ t.Above root root)
    {nodes out : List NodeId} (h : t.InOrder nodes out) (hnodes : ∀ i ∈ nodes, t.Above root i)
    (hparents : ∀ i ∈ out, t.parent? i = some root ∨ ∃ p, t.parentElement? i = some p) :
    t.ElementOrder (nodes.filter t.isElement) out := by
  induction h with
  | nil => exact .nil
  | @cons i nodes below later hb hl ihb ihl =>
    obtain ⟨hi, hnodes⟩ := List.forall_mem_cons.1 hnodes
    have hlater := ihl hnodes fun j hj => hparents j (List.mem_append_right _ hj)
    have hpbelow : ∀ j ∈ below, t.parent? j = some root ∨ ∃ p, t.parentElement? j = some p :=
      fun j hj => hparents j (List.mem_append_left _ (List.mem_append_right _ hj))
    have hbelow := ihb (fun k hk => hi.trans (.parent (ht.mem_children_iff.1 hk))) hpbelow
    cases hel : t.isElement i with
    | true =>
      rw [List.filter_cons_of_pos hel]
      exact .cons hbelow hlater
    | false =>
      -- no element hangs from `i`, so there is none below it
      have hnone : (t.children i).filter t.isElement = [] := by
        rw [List.filter_eq_nil_iff]
        intro k hk helk
        have hik := ht.mem_children_iff.1 hk
        rcases hpbelow k (hb.mem_of_isElement k hk helk) with hp | ⟨p, hp⟩
        · rw [hik, Option.some_inj] at hp
          exact hroot (hp ▸ hi)
        · obtain ⟨hp, help⟩ := parent?_of_parentElement? hp
          rw [hik, Option.some_inj] at hp
          rw [hp, help] at hel
          cases hel
      rw [hnone] at hbelow
      cases hbelow
      rw [List.filter_cons_of_neg (by rw [hel]; decide)]
      exact hlater

end Tree

/-! ## The same elements

  Renaming of nodes is how two documents are compared: their nodes were made in different orders,
  with different texts in between. -/

namespace Document

variable {d d' : Document} {f : NodeId → NodeId} {i k p : NodeId}

/-- A document made by edits, without a circle through the document node, whose attached elements
    hang from the document node or from elements.  A document read from markup is of this kind. -/
structure Nested (d : Document) : Prop where
  reachable : d.tree.Reachable
  root_not_above : ¬ d.tree.Above Tree.root Tree.root
  parents : ∀ i ∈ d.elements,
    d.tree.parent? i = some Tree.root ∨ ∃ p, d.tree.parentElement? i = some p

/-- The attached elements of `d` go by `f` in `d'`.  Different ones have different counterparts;
    counterparts have the same tag, attributes, id and classes, and their parents and element
    children are counterparts, the children in the same order.  That `d'` has no other attached
    elements follows (`SameElements.elements_eq`). -/
structure SameElements (d d' : Document) (f : NodeId → NodeId) : Prop where
  injOn : Set.InjOn f {i | i ∈ d.elements}
  tagName : ∀ i ∈ d.elements, d'.host.tagName (f i) = d.host.tagName i
  attributes : ∀ i ∈ d.elements, d'.host.attributes (f i) = d.host.attributes i
  id : ∀ i ∈ d.elements, d'.host.id (f i) = d.host.id i
  classes : ∀ i ∈ d.elements, d'.host.classes (f i) = d.host.classes i
  parent : ∀ i ∈ d.elements, d'.host.parent (f i) = (d.host.parent i).map f
  top : d'.host.children none = (d.host.children none).map f
  children : ∀ i ∈ d.elements, d'.host.children (some (f i)) = (d.host.children (some i)).map f

/-- The element children of an attached element, and the elements at the top, are attached. -/
theorem mem_elements_of_mem_children (ht : d.tree.Reachable)
    (hroot : ¬ d.tree.Above Tree.root Tree.root) {parent : Option NodeId}
    (hparent : ∀ p, parent = some p → p ∈ d.elements) (hk : k ∈ d.host.children parent) :
    k ∈ d.elements := by
  obtain ⟨hp, hel⟩ := ht.mem_elementChildren_iff.1 hk
  refine (ht.mem_descendants_iff hroot).2 ⟨?_, hel⟩
  cases parent with
  | none => exact .parent hp
  | some p =>
    have habove := (ht.mem_descendants_iff hroot).1 (hparent p rfl)
    exact habove.1.trans (.parent hp)

/-- For a node that hangs from an element or from the document node, the document node takes the
    place of a missing parent element. -/
theorem parent?_eq_getD (ht : d.tree.Reachable)
    (h : d.tree.parent? i = some Tree.root ∨ ∃ p, d.tree.parentElement? i = some p) :
    d.tree.parent? i = some ((d.host.parent i).getD Tree.root) := by
  show d.tree.parent? i = some ((d.tree.parentElement? i).getD Tree.root)
  rcases h with hp | ⟨p, hp⟩
  · have hnone : d.tree.parentElement? i = none := by
      rw [Tree.parentElement?, hp, Option.filter_some, ht.isElement_root]
      rfl
    rw [hp, hnone]
    rfl
  · rw [hp]
    exact (Tree.parent?_of_parentElement? hp).1

namespace Nested

variable (hd : d.Nested)
include hd

/-- Attached elements are elements. -/
theorem isElement_of_mem (hi : i ∈ d.elements) : d.tree.isElement i = true :=
  ((hd.reachable.mem_descendants_iff hd.root_not_above).1 hi).2

/-- Element children of an attached element are attached. -/
theorem mem_of_mem_children {parent : Option NodeId}
    (hparent : ∀ p, parent = some p → p ∈ d.elements) (hk : k ∈ d.host.children parent) :
    k ∈ d.elements :=
  mem_elements_of_mem_children hd.reachable hd.root_not_above hparent hk

/-- So is the parent element of one. -/
theorem mem_of_parent (hi : i ∈ d.elements) : ∀ p, d.host.parent i = some p → p ∈ d.elements :=
  fun _ hp => hd.reachable.mem_descendants_of_parentElement? hi hp

/-- The parent of an attached element is the one its host says, or else the document node. -/
theorem parent?_eq (hi : i ∈ d.elements) :
    d.tree.parent? i = some ((d.host.parent i).getD Tree.root) :=
  parent?_eq_getD hd.reachable (hd.parents i hi)

/-- The attached elements are in element order. -/
theorem elementOrder : d.tree.ElementOrder (d.host.children none) d.elements :=
  (hd.reachable.inOrder_descendants hd.root_not_above).elementOrder hd.reachable hd.root_not_above
    (fun _ hk => .parent (hd.reachable.mem_children_iff.1 hk)) hd.parents

end Nested

/-- Where the document node hangs nowhere, there is no circle through it. -/
theorem nested_of_forall (ht : d.tree.Reachable) (hroot : d.tree.parent? Tree.root = none)
    (hparents : ∀ i ∈ d.elements,
      d.tree.parent? i = some Tree.root ∨ (d.tree.parentElement? i).isSome = true) :
    d.Nested where
  reachable := ht
  root_not_above habove := by
    cases habove with
    | parent hp => rw [hroot] at hp; cases hp
    | further hp _ => rw [hroot] at hp; cases hp
  parents i hi := (hparents i hi).imp_right Option.isSome_iff_exists.1

/-! ## Walks

  A walk that goes from parent to child, or from child to parent, takes the same steps in both
  documents. -/

namespace SameElements

variable (h : d.SameElements d' f) (hd : d.Nested)
include h hd

/-- An order of some elements is one of their counterparts in the other document.  By induction on
    the order; the children of a counterpart are the counterparts of the children. -/
theorem elementOrder {nodes out : List NodeId} (hout : d.tree.ElementOrder nodes out)
    (hnodes : ∀ i ∈ nodes, i ∈ d.elements) :
    d'.tree.ElementOrder (nodes.map f) (out.map f) := by
  induction hout with
  | nil => exact .nil
  | @cons i nodes below later _ _ ihb ihl =>
    obtain ⟨hi, hnodes⟩ := List.forall_mem_cons.1 hnodes
    have hchildren : d'.tree.elementChildren (f i) = (d.tree.elementChildren i).map f :=
      h.children i hi
    have hbelow := ihb fun k hk =>
      hd.mem_of_mem_children (fun p hp => Option.some.inj hp ▸ hi) hk
    rw [← hchildren] at hbelow
    rw [List.map_cons, List.map_cons, List.map_append]
    exact .cons hbelow (ihl hnodes)

/-- The elements below the same parent are counterparts. -/
theorem siblings_eq (hi : i ∈ d.elements) :
    d'.host.children (d'.host.parent (f i)) = (d.host.children (d.host.parent i)).map f := by
  rw [h.parent i hi]
  cases hp : d.host.parent i with
  | none => exact h.top
  | some p => exact h.children p (hd.mem_of_parent hi p hp)

/-- The place among these elements, and their number, are the same.  It is looked up in a list
    without repetitions of counterparts. -/
theorem place_eq (hi : i ∈ d.elements) :
    (((d'.host.children (d'.host.parent (f i))).idxOf? (f i)).bind fun before =>
        some (before, (d'.host.children (d'.host.parent (f i))).length)) =
      ((d.host.children (d.host.parent i)).idxOf? i).bind fun before =>
        some (before, (d.host.children (d.host.parent i)).length) := by
  have hattached : ∀ k ∈ d.host.children (d.host.parent i), k ∈ d.elements := fun _ hk =>
    hd.mem_of_mem_children (hd.mem_of_parent hi) hk
  rw [h.siblings_eq hd hi, idxOf?_map_of_injOn h.injOn hattached hi, List.length_map]

/-- The position that a search asks for is the same. -/
theorem position_eq (hi : i ∈ d.elements) : d'.host.position (f i) = d.host.position i := by
  have hplace := h.place_eq hd hi
  have hparent := h.parent i hi
  show positionAmong d'.host.parent d'.host.children (f i) =
    positionAmong d.host.parent d.host.children i
  rw [positionAmong, positionAmong]
  cases hp : d.host.parent i with
  | none =>
    rw [hparent, hp]
    rfl
  | some p =>
    rw [hp] at hparent hplace
    rw [hparent] at hplace ⊢
    exact hplace

variable (hd' : d'.Nested)
include hd'

/-- **The attached elements are the counterparts, in the same order.**  The counterparts are in
    element order below the counterparts of the top, which is all of the top. -/
theorem elements_eq : d'.elements = d.elements.map f := by
  have horder := h.elementOrder hd hd.elementOrder fun _ hi =>
    hd.mem_of_mem_children (fun _ hp => by cases hp) hi
  rw [← h.top] at horder
  exact hd'.elementOrder.unique horder

/-- Counterparts of attached elements are attached. -/
theorem mem_elements (hi : i ∈ d.elements) : f i ∈ d'.elements := by
  rw [h.elements_eq hd hd']
  exact List.mem_map_of_mem hi

/-- **The ancestors are the counterparts.**  Both walks end, and each step of one is a step of the
    other. -/
theorem ancestors_eq (hi : i ∈ d.elements) :
    d'.tree.ancestors (f i) = (d.tree.ancestors i).map f := by
  -- on the depth, which falls with every step up
  induction hn : d.tree.elementDepth i using Nat.strongRecOn generalizing i with
  | _ n ih =>
    subst hn
    have hparent : d'.tree.parentElement? (f i) = (d.tree.parentElement? i).map f := h.parent i hi
    cases hp : d.tree.parentElement? i with
    | none =>
      rw [hp] at hparent
      rw [Tree.ancestors_of_parentElement?_none hp, Tree.ancestors_of_parentElement?_none hparent]
      rfl
    | some p =>
      rw [hp] at hparent
      have hw := hd.reachable.wayUpEnds hd.root_not_above hi
      have hw' := hd'.reachable.wayUpEnds hd'.root_not_above (h.mem_elements hd hd' hi)
      rw [hd.reachable.ancestors_of_parentElement? hw hp,
        hd'.reachable.ancestors_of_parentElement? hw' hparent,
        ih _ (hd.reachable.elementDepth_lt hw (.parent hp)) (hd.mem_of_parent hi p hp) rfl,
        List.map_cons]

/-- The position that a selector asks for is the same, too. -/
theorem elementPosition?_eq (hi : i ∈ d.elements) :
    d'.tree.elementPosition? (f i) = d.tree.elementPosition? i := by
  rw [Tree.elementPosition?, Tree.elementPosition?, hd.parent?_eq hi,
    hd'.parent?_eq (h.mem_elements hd hd' hi)]
  exact h.place_eq hd hi

end SameElements

end Document

end Pinpoint
