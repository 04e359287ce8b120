/-
  The links of a tree say the same as plain lists of children.

  1. **Agreement** (`Agrees`): node by node, the first and last link are the ends of the list, the
     links between siblings are the neighbours in it, and a node has a parent exactly when it
     stands in that parent's list.  Nodes that hang nowhere have no neighbours.
  2. **The step.**  Every edit keeps tree and lists in agreement; only hanging a node has to be
     looked at, and there the new node goes to the end of one list (`Agrees.append`).
  3. **The run.**  So every tree made by edits agrees with the lists made by the same edits.
  4. What walks need of it: the walk along the siblings yields the whole list, a node is among the
     children of its parent and of no other node, and once only.
-/
import Mathlib.Data.List.Induction
import Mathlib.Data.List.Nodup
import Mathlib.Data.List.Perm.Subperm
import Pinpoint.Document.ChildLists
import Pinpoint.Proofs.Document.Effects

namespace Pinpoint

/-- Distinct nodes of a tree are no more than the tree has. -/
theorem length_le_of_nodup {l : List NodeId} {n : Nat} (hnd : l.Nodup) (hlt : ∀ i ∈ l, i < n) :
    l.length ≤ n := by
  have hsub : l ⊆ List.range n := fun i hi => List.mem_range.2 (hlt i hi)
  have hle := (List.subperm_of_subset hnd hsub).length_le
  rwa [List.length_range] at hle

/-! ## The lists after one edit

  Plain lists are the picture that the links are to show: one list of children for each node, in
  order.  Every edit is simple on them; a node is added with an empty list, and hung by writing it
  at the end of one list. -/

namespace ChildLists

/-- A new node brings an empty list, and no other list changes. -/
theorem children_addNode (m : ChildLists) (i : NodeId) : m.addNode.children i = m.children i := by
  unfold children addNode
  rw [List.getElem?_append]
  split
  · rfl
  · rename_i hi
    rw [List.getElem?_eq_none (Nat.le_of_not_lt hi)]
    cases h : ([[]] : List (List NodeId))[i - m.lists.length]? with
    | none => rfl
    | some l =>
      have hl : l ∈ ([[]] : List (List NodeId)) := List.mem_of_getElem? h
      rw [List.mem_singleton] at hl
      rw [hl]; rfl

/-- There is one list more. -/
@[simp] theorem size_addNode (m : ChildLists) : m.addNode.size = m.size + 1 := by
  simp [size, addNode]

/-- A node is placed if it stands in some list. -/
theorem isPlaced_iff {m : ChildLists} {c : NodeId} :
    m.isPlaced c = true ↔ ∃ p, c ∈ m.children p := by
  simp only [isPlaced, List.any_eq_true, List.contains_iff_mem, children]
  constructor
  · rintro ⟨l, hl, hc⟩
    obtain ⟨p, hp⟩ := List.mem_iff_getElem?.1 hl
    exact ⟨p, by rw [hp]; exact hc⟩
  · rintro ⟨p, hc⟩
    cases hp : m.lists[p]? with
    | none => rw [hp] at hc; cases hc
    | some l => rw [hp] at hc; exact ⟨l, List.mem_of_getElem? hp, hc⟩

/-- Only nodes of the tree have children. -/
theorem lt_size_of_mem_children {m : ChildLists} {p c : NodeId} (h : c ∈ m.children p) :
    p < m.size := by
  rcases Nat.lt_or_ge p m.size with hp | hp
  · exact hp
  · rw [children, List.getElem?_eq_none hp] at h
    cases h

/-- Hanging a node makes no node. -/
@[simp] theorem size_append (m : ChildLists) (parent child : NodeId) :
    (m.append parent child).size = m.size := by
  unfold append
  split
  · simp [size]
  · rfl

/-- The new child goes to the end of one list; every other list stays. -/
theorem children_append {m : ChildLists} {parent child : NodeId} (hne : parent ≠ child)
    (hp : parent < m.size) (hc : child < m.size) (hfree : m.isPlaced child = false) (i : NodeId) :
    (m.append parent child).children i =
      if i = parent then m.children parent ++ [child] else m.children i := by
  rw [append, if_pos ⟨hne, hp, hc, hfree⟩]
  simp only [children, List.getElem?_modify]
  by_cases hi : parent = i
  · subst hi
    have hp' : parent < m.lists.length := hp
    simp [List.getElem?_eq_getElem hp']
  · have hi' : i ≠ parent := fun h => hi h.symm
    simp [hi, hi']

end ChildLists

/-! ## Agreement

  The invariant of the tree.  It relates the links of each node to the lists, and says nothing about
  contents. -/

/-- Links and lists show the same shape.

    The links of a node are five numbers, and the lists say what each of them is to be.  Two of the
    conditions speak of a list cut in two around a node: what follows the node starts with its next
    sibling, and what precedes it ends with its previous one. -/
structure Agrees (t : Tree) (m : ChildLists) : Prop where
  size_eq : t.size = m.size
  parent_iff : ∀ p c, (t.links c).parent = some p ↔ c ∈ m.children p
  firstChild_eq : ∀ p, (t.links p).firstChild = (m.children p).head?
  lastChild_eq : ∀ p, (t.links p).lastChild = (m.children p).getLast?
  next_eq : ∀ p l c r, m.children p = l ++ c :: r → (t.links c).next = r.head?
  previous_eq : ∀ p l c r, m.children p = l ++ c :: r → (t.links c).previous = l.getLast?
  nodup : ∀ p, (m.children p).Nodup
  free : ∀ c, (t.links c).parent = none → (t.links c).previous = none ∧ (t.links c).next = none

namespace Agrees

variable {t t' : Tree} {m : ChildLists} {p c : NodeId}

/-- Both ends of a link are nodes of the tree.  The child is one because a number that names no node
    has no parent. -/
theorem lt_size_of_mem (h : Agrees t m) (hc : c ∈ m.children p) : p < t.size ∧ c < t.size := by
  refine ⟨by rw [h.size_eq]; exact ChildLists.lt_size_of_mem_children hc, ?_⟩
  apply Tree.lt_size_of_links
  intro hnone
  have hpar := (h.parent_iff p c).2 hc
  rw [hnone] at hpar
  cases hpar

/-- A node has no parent exactly if it stands in no list. -/
theorem parent_eq_none_iff (h : Agrees t m) :
    (t.links c).parent = none ↔ m.isPlaced c = false := by
  rw [← Bool.not_eq_true, ChildLists.isPlaced_iff, Option.eq_none_iff_forall_ne_some, not_exists]
  exact forall_congr' fun p => not_congr (h.parent_iff p c)

/-- The empty tree has the document node alone, and its list is empty. -/
theorem empty : Agrees Tree.empty ChildLists.empty := by
  have hlists : ∀ i, ChildLists.empty.children i = [] := by
    intro i
    cases i <;> rfl
  have hlinks : ∀ i, Tree.empty.links i = Links.none := by
    intro i
    cases i <;> rfl
  refine ⟨rfl, ?_, ?_, ?_, ?_, ?_, ?_, ?_⟩ <;> intros <;> simp_all [Links.none]

/-- Trees with the same links and the same number of nodes agree with the same lists. -/
theorem of_links_eq (h : Agrees t m) {m' : ChildLists} (hsize : t'.size = m'.size)
    (hlinks : ∀ i, t'.links i = t.links i) (hlists : ∀ i, m'.children i = m.children i) :
    Agrees t' m' := by
  refine ⟨hsize, ?_, ?_, ?_, ?_, ?_, ?_, ?_⟩ <;> simp only [hlinks, hlists]
  · exact h.parent_iff
  · exact h.firstChild_eq
  · exact h.lastChild_eq
  · exact h.next_eq
  · exact h.previous_eq
  · exact h.nodup
  · exact h.free

/-- A node that is added hangs nowhere and has no children. -/
theorem addNode (h : Agrees t m) {content : Content}
    (hpush : t'.nodes = t.nodes.push (.detached content)) : Agrees t' m.addNode := by
  refine h.of_links_eq ?_ (Tree.links_of_push hpush) m.children_addNode
  rw [ChildLists.size_addNode, ← h.size_eq, Tree.size, hpush, Array.size_push]; rfl

/-! ## The step that hangs a node

  Two things are known of a node that can be hung: it is in no list, and its parent is another node.
  So no link of a node in a list leads to it, and no link of the new child has to be undone. -/

section Hanging

variable {parent child : NodeId}

/-- Tree and lists refuse to hang a node in the same cases. -/
theorem canHang_iff (h : Agrees t m) :
    t.CanHang parent child ↔
      parent ≠ child ∧ parent < m.size ∧ child < m.size ∧ m.isPlaced child = false := by
  rw [← h.size_eq, ← h.parent_eq_none_iff]
  exact ⟨fun ⟨h₁, h₂, h₃, h₄⟩ => ⟨h₁, h₂, h₃, h₄⟩, fun ⟨h₁, h₂, h₃, h₄⟩ => ⟨h₁, h₂, h₃, h₄⟩⟩

/-- The last child of a node is one of its children. -/
theorem mem_of_lastChild (h : Agrees t m) (hl : (t.links p).lastChild = some c) :
    c ∈ m.children p := by
  rw [h.lastChild_eq] at hl
  exact List.mem_of_getLast? hl

/-- A node hung now stands in no list before. -/
theorem not_mem_of_canHang (h : Agrees t m) (hh : t.CanHang parent child) (q : NodeId) :
    child ∉ m.children q := by
  intro hq
  have hpar := (h.parent_iff q child).2 hq
  rw [hh.free] at hpar
  cases hpar

/-- The lists after a hanging that is not refused. -/
theorem children_append (h : Agrees t m) (hh : t.CanHang parent child) (i : NodeId) :
    (m.append parent child).children i =
      if i = parent then m.children parent ++ [child] else m.children i := by
  obtain ⟨h₁, h₂, h₃, h₄⟩ := h.canHang_iff.1 hh
  exact ChildLists.children_append h₁ h₂ h₃ h₄ i

/-- Where a node stands in a list after the hanging: it is the new child at the end of its parent's
    list, or it stood there before with the same nodes around it.  In the second case the list may
    be the one that grew, and then the new child is the last of the nodes behind. -/
theorem split_append (h : Agrees t m) (hh : t.CanHang parent child) {l r : List NodeId}
    (heq : (m.append parent child).children p = l ++ c :: r) :
    (p = parent ∧ c = child ∧ l = m.children parent ∧ r = []) ∨
    (p = parent ∧ ∃ r', r = r' ++ [child] ∧ m.children parent = l ++ c :: r') ∨
    (p ≠ parent ∧ m.children p = l ++ c :: r) := by
  rw [h.children_append hh] at heq
  by_cases hp : p = parent
  · rw [if_pos hp] at heq
    -- the new child is the last one, so what is behind a node says whether this is the new one
    rcases List.eq_nil_or_concat r with rfl | ⟨r', x, rfl⟩
    · have := List.append_inj' heq rfl
      rw [List.cons.injEq] at this
      exact Or.inl ⟨hp, this.2.1.symm, this.1.symm, rfl⟩
    · have heq' : m.children parent ++ [child] = (l ++ c :: r') ++ [x] := by
        rw [heq]; simp
      obtain ⟨hl, hx⟩ := List.append_inj' heq' rfl
      rw [List.cons.injEq] at hx
      exact Or.inr (Or.inl ⟨hp, r', by rw [hx.1]; simp, hl⟩)
  · rw [if_neg hp] at heq
    exact Or.inr (Or.inr ⟨hp, heq⟩)

/-- The links after it.  The new child gets a parent and a previous sibling, the child that was last
    gets a next one, and the parent gets a last child, and a first one if it had none. -/
theorem links_append (h : Agrees t m) (hh : t.CanHang parent child) (i : NodeId) :
    (t.append parent child).links i =
      { parent := if i = child then some parent else (t.links i).parent
        firstChild :=
          if i = parent ∧ (t.links parent).lastChild = none then some child
          else (t.links i).firstChild
        lastChild := if i = parent then some child else (t.links i).lastChild
        previous := if i = child then (t.links parent).lastChild else (t.links i).previous
        next :=
          if (t.links parent).lastChild = some i then some child
          else if i = child then none else (t.links i).next } :=
  Tree.links_append hh (fun _ hl => (h.lt_size_of_mem (h.mem_of_lastChild hl)).2) i

/-- The next sibling.  By where the node stands in the list afterwards: the new child has none, the
    one that was last has the new child, and the others keep theirs. -/
theorem next_append (h : Agrees t m) (hh : t.CanHang parent child) {l r : List NodeId}
    (heq : (m.append parent child).children p = l ++ c :: r) :
    ((t.append parent child).links c).next = r.head? := by
  rw [h.links_append hh]
  dsimp only
  rcases h.split_append hh heq with ⟨-, rfl, -, rfl⟩ | ⟨-, r', rfl, hc⟩ | ⟨hp, hc⟩
  · rw [if_neg (fun hl => h.not_mem_of_canHang hh _ (h.mem_of_lastChild hl)), if_pos rfl]; rfl
  · have hne : c ≠ child := by
      rintro rfl
      exact h.not_mem_of_canHang hh parent (by rw [hc]; simp)
    have hnd := h.nodup parent
    rw [h.lastChild_eq, hc, if_neg hne]
    cases r' with
    | nil => simp
    | cons y r' =>
      -- the last node of the list is behind `c`, so it is not `c`
      have hlast : (l ++ c :: y :: r').getLast? ≠ some c := by
        rw [List.getLast?_append_cons, List.getLast?_cons_cons]
        intro hl
        rw [hc] at hnd
        exact (List.nodup_cons.1 (List.nodup_append.1 hnd).2.1).1 (List.mem_of_getLast? hl)
      rw [if_neg hlast, h.next_eq parent l c (y :: r') hc]; rfl
  · have hmem : c ∈ m.children p := by rw [hc]; simp
    have hne : c ≠ child := by
      rintro rfl
      exact h.not_mem_of_canHang hh p hmem
    -- a last child of `parent` has `parent` for its parent, and `c` has `p`
    have hlast : (t.links parent).lastChild ≠ some c := by
      intro hl
      have h₁ := (h.parent_iff parent c).2 (h.mem_of_lastChild hl)
      rw [(h.parent_iff p c).2 hmem] at h₁
      exact hp (Option.some.inj h₁)
    rw [if_neg hlast, if_neg hne]
    exact h.next_eq p l c r hc

/-- The previous sibling.  Only the new child gets one, and it is the child that was last before. -/
theorem previous_append (h : Agrees t m) (hh : t.CanHang parent child) {l r : List NodeId}
    (heq : (m.append parent child).children p = l ++ c :: r) :
    ((t.append parent child).links c).previous = l.getLast? := by
  rw [h.links_append hh]
  dsimp only
  have hold : ∀ q r', m.children q = l ++ c :: r' → c ≠ child := by
    rintro q r' hq rfl
    exact h.not_mem_of_canHang hh q (by rw [hq]; simp)
  rcases h.split_append hh heq with ⟨-, rfl, rfl, -⟩ | ⟨-, r', -, hc⟩ | ⟨-, hc⟩
  · rw [if_pos rfl, h.lastChild_eq]
  · rw [if_neg (hold _ _ hc)]
    exact h.previous_eq _ l c r' hc
  · rw [if_neg (hold _ _ hc)]
    exact h.previous_eq _ l c r hc

/-- The parent.  Only the new child gets one, and only the list of its parent grows. -/
theorem parent_iff_append (h : Agrees t m) (hh : t.CanHang parent child) (p c : NodeId) :
    ((t.append parent child).links c).parent = some p ↔
      c ∈ (m.append parent child).children p := by
  rw [h.links_append hh, h.children_append hh]
  dsimp only
  by_cases hc : c = child
  · subst hc
    rw [if_pos rfl, Option.some_inj]
    split
    · rename_i hp
      simp [hp]
    · rename_i hp
      exact ⟨fun he => absurd he.symm hp, fun hm => absurd hm (h.not_mem_of_canHang hh p)⟩
  · rw [if_neg hc, h.parent_iff]
    split
    · rename_i hp
      simp [hp, hc]
    · rfl

/-- **Hanging keeps the agreement.**  One lemma above for each condition that speaks of siblings and
    parents; the ends of the list and the nodes that hang nowhere are short enough to be done
    here. -/
theorem hang (h : Agrees t m) (hh : t.CanHang parent child) :
    Agrees (t.append parent child) (m.append parent child) where
  size_eq := by
    rw [ChildLists.size_append, ← h.size_eq, Tree.size_append]
  parent_iff := h.parent_iff_append hh
  firstChild_eq p := by
    rw [h.links_append hh, h.children_append hh]
    dsimp only
    by_cases hp : p = parent
    · subst hp
      rw [h.lastChild_eq, h.firstChild_eq, if_pos rfl]
      cases m.children p with
      | nil => simp
      | cons x xs => simp
    · rw [if_neg hp, if_neg (fun hc => hp hc.1)]
      exact h.firstChild_eq p
  lastChild_eq p := by
    rw [h.links_append hh, h.children_append hh]
    dsimp only
    split
    · rw [List.getLast?_concat]
    · exact h.lastChild_eq p
  next_eq _ _ _ _ heq := h.next_append hh heq
  previous_eq _ _ _ _ heq := h.previous_append hh heq
  nodup p := by
    rw [h.children_append hh]
    split
    · rw [← List.concat_eq_append]
      exact (h.nodup parent).concat (h.not_mem_of_canHang hh parent)
    · exact h.nodup p
  -- a node that hangs nowhere is not the one just hung, nor the one before it
  free c hc := by
    rw [h.links_append hh] at hc ⊢
    dsimp only at hc ⊢
    have hne : c ≠ child := by
      rintro rfl
      rw [if_pos rfl] at hc
      cases hc
    rw [if_neg hne] at hc
    have hlast : (t.links parent).lastChild ≠ some c := by
      intro hl
      rw [(h.parent_iff parent c).2 (h.mem_of_lastChild hl)] at hc
      cases hc
    rw [if_neg hne, if_neg hlast, if_neg hne]
    exact h.free c hc

end Hanging

/-! ## Edits

  Making a node and setting an attribute leave the links of every node alone, so agreement is kept
  by `of_links_eq` and `addNode`. -/

/-- A hanging that is refused changes neither tree nor lists. -/
theorem append (h : Agrees t m) (parent child : NodeId) :
    Agrees (t.append parent child) (m.append parent child) := by
  by_cases hh : t.CanHang parent child
  · exact h.hang hh
  · rw [Tree.append_eq_self hh, ChildLists.append, if_neg (fun hm => hh (h.canHang_iff.2 hm))]
    exact h

/-- **Every edit keeps the agreement.** -/
theorem apply (h : Agrees t m) (e : Edit) : Agrees (t.apply e) (m.apply e) := by
  rcases e with tag | value | value | name | ⟨node, name, value⟩ | ⟨parent, child⟩
  · show Agrees (t.addElement tag).2 m.addNode
    exact h.addNode rfl
  · show Agrees (t.addText value).2 m.addNode
    exact h.addNode rfl
  · show Agrees (t.addComment value).2 m.addNode
    exact h.addNode rfl
  · show Agrees (t.addDoctype name).2 m.addNode
    exact h.addNode rfl
  · refine h.of_links_eq ?_ (t.links_setAttribute node · name value) (fun _ => rfl)
    exact (t.size_setAttribute node name value).trans h.size_eq
  · exact h.append parent child

/-- **Links and lists agree after any history of edits.**  By induction on the history, from its
    end. -/
theorem ofEdits (edits : List Edit) : Agrees (Tree.ofEdits edits) (ChildLists.ofEdits edits) := by
  induction edits using List.reverseRecOn with
  | nil => exact empty
  | append_singleton edits e ih =>
    rw [Tree.ofEdits_concat, ChildLists.ofEdits_concat]
    exact ih.apply e

/-! ## Walking along the siblings

  A walk follows the next link until there is none.  It carries a bound, so that it is a function on
  any links; on links that agree with lists, the bound is never met. -/

/-- The walk from a place of a list on yields the rest of the list.  By induction on this rest; the
    next link of its first node leads to the first node of what is behind it. -/
theorem siblingsFrom_eq (h : Agrees t m) {l r : List NodeId} (hlist : m.children p = l ++ r)
    {bound : Nat} (hb : r.length ≤ bound) : t.siblingsFrom bound r.head? = r := by
  induction r generalizing l bound with
  | nil => cases bound <;> rfl
  | cons x r ih =>
    obtain ⟨bound, rfl⟩ := Nat.exists_eq_add_of_lt (Nat.lt_of_lt_of_le (Nat.succ_pos _) hb)
    have hx : x < t.size := (h.lt_size_of_mem (p := p) (by rw [hlist]; simp)).2
    obtain ⟨n, hn⟩ := Option.isSome_iff_exists.1 (Tree.node?_isSome_iff.2 hx)
    have hnext : n.next = r.head? := by
      have := h.next_eq p l x r hlist
      rwa [Tree.links_of_node? hn] at this
    simp only [List.head?_cons, Nat.zero_add, Tree.siblingsFrom, hn, hnext]
    rw [ih (l := l ++ [x]) (by rw [hlist]; simp) (by simpa using hb)]

/-- **The walk along the siblings yields the list.**  It starts at the first child, and its bound is
    the number of nodes, which no list without repetitions exceeds. -/
theorem children_eq (h : Agrees t m) (p : NodeId) : t.children p = m.children p := by
  have hfirst : (t.node? p).bind Node.firstChild = (m.children p).head? := by
    rw [← h.firstChild_eq, Tree.links]
    cases t.node? p <;> rfl
  rw [Tree.children, hfirst]
  exact h.siblingsFrom_eq (l := []) rfl
    (length_le_of_nodup (h.nodup p) fun c hc => (h.lt_size_of_mem hc).2)

end Agrees

/-! ## Trees in use

  Other modules do not see the lists.  They use what follows here: which nodes are children of
  which, and that none is listed twice. -/

namespace Tree

/-- Made of the empty tree by edits. -/
def Reachable (t : Tree) : Prop := ∃ edits, t = ofEdits edits

namespace Reachable

variable {t : Tree} {p c : NodeId}

/-- One more edit makes a tree in use of a tree in use. -/
theorem apply (h : t.Reachable) (e : Edit) : (t.apply e).Reachable := by
  obtain ⟨edits, rfl⟩ := h
  exact ⟨edits ++ [e], (ofEdits_concat edits e).symm⟩

/-- A tree in use agrees with some lists, namely with those made by its edits. -/
theorem agrees (h : t.Reachable) : ∃ m, Agrees t m := by
  obtain ⟨edits, rfl⟩ := h
  exact ⟨_, Agrees.ofEdits edits⟩

/-- **A node is among the children of its parent, and of no other node.** -/
theorem mem_children_iff (h : t.Reachable) : c ∈ t.children p ↔ t.parent? c = some p := by
  obtain ⟨m, hm⟩ := h.agrees
  rw [hm.children_eq, parent?_eq_links, hm.parent_iff]

/-- No child is listed twice. -/
theorem nodup_children (h : t.Reachable) (p : NodeId) : (t.children p).Nodup := by
  obtain ⟨m, hm⟩ := h.agrees
  rw [hm.children_eq]
  exact hm.nodup p

/-- Parent and child are nodes of the tree. -/
theorem lt_size_of_parent? (h : t.Reachable) (hc : t.parent? c = some p) :
    p < t.size ∧ c < t.size := by
  obtain ⟨m, hm⟩ := h.agrees
  rw [parent?_eq_links, hm.parent_iff] at hc
  exact hm.lt_size_of_mem hc

/-- The children that are elements. -/
theorem mem_elementChildren_iff (h : t.Reachable) :
    c ∈ t.elementChildren p ↔ t.parent? c = some p ∧ t.isElement c = true := by
  rw [elementChildren, List.mem_filter, h.mem_children_iff]

/-- They are listed once, too. -/
theorem nodup_elementChildren (h : t.Reachable) (p : NodeId) : (t.elementChildren p).Nodup :=
  (h.nodup_children p).filter _

end Reachable

/-- **The tree of a document in use has been made by edits**; finalizing leaves it as it is. -/
theorem reachable_ofSteps (steps : List Step) : (Document.ofSteps steps).tree.Reachable := by
  induction steps using List.reverseRecOn with
  | nil => exact ⟨[], rfl⟩
  | append_singleton steps s ih =>
    rw [Document.ofSteps_concat]
    cases s with
    | edit e => exact ih.apply e
    | finalize =>
      rw [Document.apply, Document.finalize]
      split <;> exact ih

/-- What is to hold of every tree in use is shown of the empty one and of one more edit.  Modules
    about other parts of a tree prove their invariants by it. -/
theorem Reachable.induction {P : Tree → Prop} (hempty : P empty)
    (hstep : ∀ t e, t.Reachable → P t → P (t.apply e)) {t : Tree} (h : t.Reachable) : P t := by
  obtain ⟨edits, rfl⟩ := h
  induction edits using List.reverseRecOn with
  | nil => exact hempty
  | append_singleton edits e ih =>
    rw [ofEdits_concat]
    exact hstep _ e ⟨edits, rfl⟩ ih

end Tree

end Pinpoint
