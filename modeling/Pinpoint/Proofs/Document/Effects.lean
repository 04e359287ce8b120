/-
  What an edit does to the links of a tree.

  1. `links`: the five links of a node in one value; a node that does not exist has none.
  2. A new node hangs nowhere and an attribute is no link, so five of the six edits leave every
     link as it is.
  3. **Hanging a node below another** writes the links of three nodes at most, and says so for
     every node at once (`links_append`).
-/
import Pinpoint.Document.Edit

namespace Pinpoint

/-! ## Links

  A node holds its links among other things.  Taking them out as one value makes it possible to say
  what an edit does to them without naming the rest. -/

/-- How a node knows its neighbours in the tree.  The first and the last child are known, and every
    other child by the links among siblings. -/
structure Links where
  parent : Option NodeId
  firstChild : Option NodeId
  lastChild : Option NodeId
  previous : Option NodeId
  next : Option NodeId

/-- The links of a node that hangs nowhere and has no children. -/
def Links.none : Links := ⟨.none, .none, .none, .none, .none⟩

/-- The links among what a node holds. -/
def Node.links (n : Node) : Links := ⟨n.parent, n.firstChild, n.lastChild, n.previous, n.next⟩

namespace Tree

/-- The links of the node at an index. -/
def links (t : Tree) (i : NodeId) : Links := ((t.node? i).map Node.links).getD Links.none

/-- Beyond the last node there is none. -/
theorem node?_eq_none {t : Tree} {i : NodeId} (h : t.size ≤ i) : t.node? i = none :=
  Array.getElem?_eq_none_iff.2 h

/-- The numbers of the nodes are those below the size. -/
theorem node?_isSome_iff {t : Tree} {i : NodeId} : (t.node? i).isSome ↔ i < t.size := by
  rw [node?, Option.isSome_iff_ne_none, ne_eq, Array.getElem?_eq_none_iff, Nat.not_le]; rfl

/-- A node that is found has such a number. -/
theorem lt_size_of_node? {t : Tree} {i : NodeId} {n : Node} (h : t.node? i = some n) :
    i < t.size :=
  node?_isSome_iff.1 (Option.isSome_of_eq_some h)

/-- The links of a node that exists are those it holds. -/
theorem links_of_node? {t : Tree} {i : NodeId} {n : Node} (h : t.node? i = some n) :
    t.links i = n.links := by
  rw [links, h]; rfl

/-- The others have no links. -/
theorem links_of_size_le {t : Tree} {i : NodeId} (h : t.size ≤ i) : t.links i = Links.none := by
  rw [links, node?_eq_none h]; rfl

/-- A link of any sort other than none belongs to a node that exists. -/
theorem lt_size_of_links {t : Tree} {i : NodeId} (h : t.links i ≠ Links.none) : i < t.size := by
  rcases Nat.lt_or_ge i t.size with hi | hi
  · exact hi
  · exact absurd (links_of_size_le hi) h

/-- The parent is one of the links. -/
theorem parent?_eq_links (t : Tree) (i : NodeId) : t.parent? i = (t.links i).parent := by
  unfold parent? links
  cases t.node? i <;> rfl

/-! ## Edits that leave every link

  Adding a node and setting an attribute. -/

/-- A node that is pushed gets the next number. -/
theorem node?_of_push {t t' : Tree} {n : Node} (h : t'.nodes = t.nodes.push n) (i : NodeId) :
    t'.node? i = if i = t.size then some n else t.node? i := by
  rw [node?, h, Array.getElem?_push]; rfl

/-- A new node takes no link from another, and brings none. -/
theorem links_of_push {t t' : Tree} {c : Content} (h : t'.nodes = t.nodes.push (.detached c))
    (i : NodeId) : t'.links i = t.links i := by
  rw [links, node?_of_push h]
  split
  · rename_i hi
    rw [hi, links_of_size_le (Nat.le_refl _)]; rfl
  · rfl

/-- Changing one node leaves the others. -/
theorem node?_modify (t : Tree) (j i : NodeId) (f : Node → Node) :
    (t.modify j f).node? i = if j = i then (t.node? i).map f else t.node? i :=
  Array.getElem?_modify

/-- It makes no node and removes none. -/
@[simp] theorem size_modify (t : Tree) (j : NodeId) (f : Node → Node) :
    (t.modify j f).size = t.size :=
  Array.size_modify

/-- Changing a node changes its links by what the change does to links.  The change `g` on links is
    given, so that several changes in a row can be followed one by one. -/
theorem links_modify {t : Tree} {f : Node → Node} {g : Links → Links}
    (hg : ∀ n, (f n).links = g n.links) {j : NodeId} (hj : j < t.size) (i : NodeId) :
    (t.modify j f).links i = if i = j then g (t.links i) else t.links i := by
  rw [links, node?_modify]
  by_cases hij : i = j
  · subst hij
    obtain ⟨n, hn⟩ := Option.isSome_iff_exists.1 (node?_isSome_iff.2 hj)
    rw [if_pos rfl, if_pos rfl, links_of_node? hn, hn]
    exact hg n
  · rw [if_neg (fun h => hij h.symm), if_neg hij]; rfl

/-- A change of what a node holds besides its links. -/
theorem links_modify_of_links_eq {t : Tree} {f : Node → Node} (hf : ∀ n, (f n).links = n.links)
    (j i : NodeId) : (t.modify j f).links i = t.links i := by
  rw [links, node?_modify]
  split
  · rw [Option.map_map, links]
    congr 2
    exact funext hf
  · rfl

/-- Setting an attribute leaves the links of every node. -/
theorem links_setAttribute (t : Tree) (j i : NodeId) (name value : String) :
    (t.setAttribute j name value).links i = t.links i := by
  refine links_modify_of_links_eq (t := { t with names := _ }) (fun n => ?_) j i
  split <;> rfl

/-- It makes no node, even where it enters a name. -/
@[simp] theorem size_setAttribute (t : Tree) (j : NodeId) (name value : String) :
    (t.setAttribute j name value).size = t.size :=
  Array.size_modify

/-! ## Hanging a node below another

  The one edit that writes links. -/

/-- When a node is hung: both nodes exist and differ, and the child hangs nowhere yet.  Whether the
    child is above the parent is not looked at. -/
structure CanHang (t : Tree) (parent child : NodeId) : Prop where
  ne : parent ≠ child
  parent_lt : parent < t.size
  child_lt : child < t.size
  free : (t.links child).parent = none

/-- Hanging a node that cannot be hung changes nothing. -/
theorem append_eq_self {t : Tree} {parent child : NodeId} (h : ¬ t.CanHang parent child) :
    t.append parent child = t := by
  unfold append
  split
  · rename_i p c hp hc
    rw [if_pos]
    by_cases hne : parent = child
    · simp [hne]
    · cases hcp : c.parent with
      | some q => simp
      | none =>
        refine absurd ⟨hne, lt_size_of_node? hp, lt_size_of_node? hc, ?_⟩ h
        rw [links_of_node? hc]; exact hcp
  · rfl

/-- Hanging a node makes none. -/
@[simp] theorem size_append (t : Tree) (parent child : NodeId) :
    (t.append parent child).size = t.size := by
  unfold append
  split
  · split
    · rfl
    · split <;> simp
  · rfl

/-- **What hanging a node changes**, when it goes through: the child learns its parent and the
    neighbour before it, that neighbour learns the child, and the parent its new end.

    The writes are made one after another, and a later one sees what an earlier one has left.  The
    statement says for each link of each node what is there at the end.  It asks that a last child
    exists; in a tree made by edits it always does, which is not known yet at this point. -/
theorem links_append {t : Tree} {parent child : NodeId} (h : t.CanHang parent child)
    (hlast : ∀ last, (t.links parent).lastChild = some last → last < t.size) (i : NodeId) :
    (t.append parent child).links i =
      { parent := if i = child then some parent else (t.links i).parent
        firstChild :=
          if i = parent ∧ (t.links parent).lastChild = none then some child
          else (t.links i).firstChild
        lastChild := if i = parent then some child else (t.links i).lastChild
        previous := if i = child then (t.links parent).lastChild else (t.links i).previous
        next :=
          if (t.links parent).lastChild = some i then some child
          else if i = child then none else (t.links i).next } := by
  obtain ⟨hne, hps, hcs, hfree⟩ := h
  obtain ⟨p, hp⟩ := Option.isSome_iff_exists.1 (node?_isSome_iff.2 hps)
  obtain ⟨c, hc⟩ := Option.isSome_iff_exists.1 (node?_isSome_iff.2 hcs)
  rw [links_of_node? hc] at hfree
  rw [links_of_node? hp] at hlast ⊢
  have hfree : c.parent = none := hfree
  have hguard : ¬ (decide (parent = child) || c.parent.isSome) = true := by
    rw [hfree]; simp [hne]
  simp only [append, hp, hc, if_neg hguard]
  -- the writes meet only where the neighbour before is the child or the parent itself
  cases hl : p.lastChild with
  | none =>
    rw [links_modify (g := fun l => { l with lastChild := some child }) (fun _ => rfl)
        (by simpa using hps),
      links_modify (g := fun l => { l with firstChild := some child }) (fun _ => rfl)
        (by simpa using hps),
      links_modify (g := fun l => { l with parent := some parent, previous := none, next := none })
        (fun _ => rfl) hcs]
    have hpl : p.links.lastChild = none := hl
    by_cases hic : i = child
    · subst hic
      simp [hne.symm, hpl]
    · by_cases hip : i = parent
      · subst hip
        simp [hic, hpl]
      · simp [hic, hip, hpl]
  | some last =>
    have hls : last < t.size := hlast last (by rw [Node.links, hl])
    rw [links_modify (g := fun l => { l with lastChild := some child }) (fun _ => rfl)
        (by simpa using hps),
      links_modify (g := fun l => { l with next := some child }) (fun _ => rfl)
        (by simpa using hls),
      links_modify
        (g := fun l => { l with parent := some parent, previous := some last, next := none })
        (fun _ => rfl) hcs]
    have hpl : p.links.lastChild = some last := hl
    -- the neighbour before is written between the child and the parent
    by_cases hil : last = i
    · subst hil
      by_cases hic : last = child
      · subst hic
        simp [hne.symm, hpl]
      · by_cases hip : last = parent
        · subst hip
          simp [hic, hpl]
        · simp [hic, hip, hpl]
    · have hli : i ≠ last := fun h => hil h.symm
      by_cases hic : i = child
      · subst hic
        simp [hne.symm, hpl, hil, hli]
      · by_cases hip : i = parent
        · subst hip
          simp [hic, hpl, hil, hli]
        · simp [hic, hip, hpl, hil, hli]

end Tree

end Pinpoint
