/-
  Going down in a tree.

  1. `Walk`: some nodes and everything below them in preorder, said without a bound.  Where a node
     does not stand above itself, nothing below it does, and a walk below it exists
     (`Reachable.exists_walk`): the number of nodes below falls with every step down.  Below a node
     that stands above itself no walk comes to its end (`Reachable.not_exists_walk`).
  2. A walk below a node passes exactly the nodes below it, and none of them twice.
  3. So it is no longer than the tree has nodes, and the visits, which are bounded by that number,
     go all the way (`Walk.visit_eq`): the descendants of a node are the elements below it, each
     once, in document order.
  4. What is above an attached element is attached.
-/
import Pinpoint.Proofs.Document.Ancestors
import Pinpoint.Proofs.Document.Contents

namespace Pinpoint.Tree

variable {t : Tree} {a i j k p : NodeId}

/-! ## Walks

  The program visits nodes with a stack and a bound on its steps.  A walk has neither, and says what
  the order is. -/

/-- `all` lists `nodes` and everything below them: a node comes before what is below it, and that
    before the nodes that follow. -/
inductive Walk (t : Tree) : (nodes all : List NodeId) → Prop
  | nil : Walk t [] []
  | cons {i : NodeId} {nodes below later : List NodeId} (hb : Walk t (t.children i) below)
      (hl : Walk t nodes later) : Walk t (i :: nodes) (i :: (below ++ later))

/-- Walks below each of some nodes make a walk through them all. -/
theorem exists_walk_of_forall {nodes : List NodeId}
    (h : ∀ i ∈ nodes, ∃ below, t.Walk (t.children i) below) : ∃ all, t.Walk nodes all := by
  induction nodes with
  | nil => exact ⟨[], .nil⟩
  | cons i nodes ih =>
    obtain ⟨below, hb⟩ := h i List.mem_cons_self
    obtain ⟨later, hl⟩ := ih fun j hj => h j (List.mem_cons_of_mem _ hj)
    exact ⟨_, .cons hb hl⟩

/-- Below a node that does not stand above itself, no node does. -/
theorem not_above_self_of_above (h : ¬ t.Above i i) (hj : t.Above i j) : ¬ t.Above j j :=
  fun hloop => h (above_self_of_above hloop hj)

open Classical in
/-- **A walk below a node exists** unless the node stands above itself.  By induction on the number
    of nodes below: a child has fewer below it than its parent, which has the child as well. -/
theorem Reachable.exists_walk (ht : t.Reachable) (h : ¬ t.Above i i) :
    ∃ all, t.Walk (t.children i) all := by
  -- on the number of nodes below, which falls from a node to its children
  induction hd : ((Finset.range t.size).filter (t.Above i ·)).card using Nat.strongRecOn
    generalizing i with
  | _ n ih =>
    subst hd
    refine exists_walk_of_forall fun k hk => ?_
    have hik : t.Above i k := .parent (ht.mem_children_iff.1 hk)
    have hkk : ¬ t.Above k k := not_above_self_of_above h hik
    refine ih _ ?_ hkk rfl
    exact card_filter_lt (r := fun x y => t.Above y x) (fun hxy hyz => hyz.trans hxy) hik hkk
      (ht.lt_size_of_above hik).2

/-! ## What a walk passes

  A walk is looked at as a list: its members, its length, its repetitions. -/

/-- Below every node that a walk passes there is a walk, and a shorter one: the node itself is not
    in it. -/
theorem Walk.exists_shorter {nodes all : List NodeId} (h : t.Walk nodes all) (hj : j ∈ all) :
    ∃ below, t.Walk (t.children j) below ∧ below.length < all.length := by
  induction h with
  | nil => cases hj
  | @cons i nodes below later hb hl ihb ihl =>
    have hlen : (i :: (below ++ later)).length = below.length + later.length + 1 := by
      rw [List.length_cons, List.length_append]
    rcases List.mem_cons.1 hj with rfl | hj
    · exact ⟨below, hb, by omega⟩
    · rcases List.mem_append.1 hj with hj | hj
      · obtain ⟨all, hall, hlt⟩ := ihb hj
        exact ⟨all, hall, by omega⟩
      · obtain ⟨all, hall, hlt⟩ := ihl hj
        exact ⟨all, hall, by omega⟩

/-- Below a node are its children and what is below them. -/
theorem Reachable.above_iff_exists_child (ht : t.Reachable) :
    t.Above i j ↔ ∃ k ∈ t.children i, j = k ∨ t.Above k j := by
  constructor
  · intro h
    obtain ⟨k, hk, hj⟩ := exists_child_of_above h
    exact ⟨k, ht.mem_children_iff.2 hk, hj⟩
  · rintro ⟨k, hk, rfl | hj⟩
    · exact .parent (ht.mem_children_iff.1 hk)
    · exact (Above.parent (ht.mem_children_iff.1 hk)).trans hj

/-- A walk passes its nodes and everything below them. -/
theorem Walk.mem_iff (ht : t.Reachable) {nodes all : List NodeId} (h : t.Walk nodes all) :
    j ∈ all ↔ ∃ k ∈ nodes, j = k ∨ t.Above k j := by
  induction h with
  | nil => simp
  | cons hb hl ihb ihl =>
    rw [List.mem_cons, List.mem_append, ihb, ihl, ← ht.above_iff_exists_child, ← or_assoc]
    simp only [List.mem_cons, exists_eq_or_imp]

/-- **A walk below a node that stands above itself never ends.**  It would come by the node again, and
    from there on it would be a shorter walk below the same node. -/
theorem Reachable.not_exists_walk (ht : t.Reachable) (h : t.Above i i) :
    ¬ ∃ all, t.Walk (t.children i) all := by
  rintro ⟨all, hall⟩
  induction hn : all.length using Nat.strongRecOn generalizing all with
  | _ n ih =>
    have hagain : i ∈ all := (hall.mem_iff ht).2 (ht.above_iff_exists_child.1 h)
    obtain ⟨below, hbelow, hlt⟩ := hall.exists_shorter hagain
    exact ih below.length (hn ▸ hlt) below hbelow rfl

/-- A child of a node that does not stand above itself is neither a sibling nor above one. -/
theorem not_above_of_siblings (hp : ¬ t.Above p p) (hi : t.parent? i = some p)
    (hk : t.parent? k = some p) : ¬ t.Above k i := by
  intro h
  have hpk : t.Above p k := .parent hk
  rcases (above_iff hi).1 h with rfl | h
  · exact hp hpk
  · exact hp (hpk.trans h)

/-- **A walk below a node passes no node twice.**  Two nodes of it that are the same would have one
    line of nodes above, and on it two siblings, one above the other. -/
theorem Walk.nodup (ht : t.Reachable) (hp : ¬ t.Above p p) {nodes all : List NodeId}
    (h : t.Walk nodes all) (hnodes : nodes.Nodup) (hpar : ∀ i ∈ nodes, t.parent? i = some p) :
    all.Nodup := by
  induction h generalizing p with
  | nil => exact List.nodup_nil
  | @cons i nodes below later hb hl ihb ihl =>
    obtain ⟨hi, hnodes⟩ := List.nodup_cons.1 hnodes
    have hip : t.parent? i = some p := hpar i List.mem_cons_self
    have hrest : ∀ k ∈ nodes, t.parent? k = some p := fun k hk => hpar k (List.mem_cons_of_mem _ hk)
    have hii : ¬ t.Above i i := not_above_self_of_above hp (.parent hip)
    have hbelow : ∀ j, j ∈ below ↔ t.Above i j := fun j => by
      rw [hb.mem_iff ht, ← ht.above_iff_exists_child]
    refine List.nodup_cons.2 ⟨?_, List.nodup_append'.2 ⟨?_, ihl hp hnodes hrest, ?_⟩⟩
    · rw [List.mem_append, hbelow, hl.mem_iff ht]
      rintro (h | ⟨k, hk, rfl | h⟩)
      · exact hii h
      · exact hi hk
      · exact not_above_of_siblings hp hip (hrest k hk) h
    · exact ihb hii (ht.nodup_children i) fun k hk => ht.mem_children_iff.1 hk
    · -- a node below `i` and in or below a later sibling would put one sibling above the other
      intro j hj hlater
      rw [hbelow] at hj
      obtain ⟨k, hk, rfl | h⟩ := (hl.mem_iff ht).1 hlater
      · exact not_above_of_siblings hp (hrest _ hk) hip hj
      · rcases above_comparable hj h with rfl | h | h
        · exact hi hk
        · exact not_above_of_siblings hp (hrest k hk) hip h
        · exact not_above_of_siblings hp hip (hrest k hk) h

/-! ## Visits

  From walks back to the program. -/

/-- **The visits follow the walk**: with a bound that covers it, they come through it and go on with
    what waits behind.  What waits is a stack; the children of a node are put on top of it, so all
    that is below the node is visited before the next node that waits. -/
theorem Walk.visit_eq {nodes all : List NodeId} (h : t.Walk nodes all) (waiting : List NodeId)
    (n : Nat) :
    t.visit (all.length + n) (nodes ++ waiting) = all.filter t.isElement ++ t.visit n waiting := by
  induction h generalizing waiting n with
  | nil => simp
  | @cons i nodes below later hb hl ihb ihl =>
    have hlen : (i :: (below ++ later)).length + n = (below.length + (later.length + n)) + 1 := by
      simp only [List.length_cons, List.length_append]
      omega
    have hvisit : t.visit (below.length + (later.length + n)) (t.children i ++ (nodes ++ waiting))
        = (below ++ later).filter t.isElement ++ t.visit n waiting := by
      rw [ihb, ihl, List.filter_append, List.append_assoc]
    rw [hlen, List.cons_append, visit, hvisit, List.filter_cons]
    split <;> rfl

/-- Where nothing waits, nothing is visited. -/
theorem visit_nil (t : Tree) (n : Nat) : t.visit n [] = [] := by
  cases n <;> rfl

/-- A walk that is no longer than the tree has nodes is gone to its end. -/
theorem Walk.descendants_eq {all : List NodeId} (h : t.Walk (t.children i) all)
    (hlen : all.length ≤ t.size) : t.descendants i = all.filter t.isElement := by
  have hvisit := h.visit_eq [] (t.size - all.length)
  rw [Nat.add_sub_of_le hlen, List.append_nil, visit_nil, List.append_nil] at hvisit
  exact hvisit

/-- The elements of a walk are in document order. -/
theorem Walk.inOrder {nodes all : List NodeId} (h : t.Walk nodes all) :
    t.InOrder nodes (all.filter t.isElement) := by
  induction h with
  | nil => exact .nil
  | @cons i nodes below later _ _ ihb ihl =>
    have := InOrder.cons ihb ihl
    by_cases hi : t.isElement i = true <;> simpa [hi] using this

/-- The nodes below a node, in the order of the walk.  What is said of descendants in the next
    section is read off this walk. -/
theorem Reachable.exists_below (ht : t.Reachable) (h : ¬ t.Above i i) :
    ∃ all, t.Walk (t.children i) all ∧ all.Nodup ∧ (∀ j, j ∈ all ↔ t.Above i j) ∧
      t.descendants i = all.filter t.isElement := by
  obtain ⟨all, hall⟩ := ht.exists_walk h
  have hnd : all.Nodup :=
    hall.nodup ht h (ht.nodup_children i) fun k hk => ht.mem_children_iff.1 hk
  have hmem : ∀ j, j ∈ all ↔ t.Above i j := fun j => by
    rw [hall.mem_iff ht, ← ht.above_iff_exists_child]
  have hlen : all.length ≤ t.size :=
    length_le_of_nodup hnd fun j hj => (ht.lt_size_of_above ((hmem j).1 hj)).2
  exact ⟨all, hall, hnd, hmem, hall.descendants_eq hlen⟩

/-! ## Descendants

  What other modules use of all this. -/

/-- **The descendants of a node are the elements below it.** -/
theorem Reachable.mem_descendants_iff (ht : t.Reachable) (h : ¬ t.Above i i) :
    j ∈ t.descendants i ↔ t.Above i j ∧ t.isElement j = true := by
  obtain ⟨all, -, -, hmem, heq⟩ := ht.exists_below h
  rw [heq, List.mem_filter, hmem]

/-- **No descendant is listed twice.** -/
theorem Reachable.nodup_descendants (ht : t.Reachable) (h : ¬ t.Above i i) :
    (t.descendants i).Nodup := by
  obtain ⟨all, -, hnd, -, heq⟩ := ht.exists_below h
  rw [heq]
  exact hnd.filter _

/-- **The descendants come in document order.** -/
theorem Reachable.inOrder_descendants (ht : t.Reachable) (h : ¬ t.Above i i) :
    t.InOrder (t.children i) (t.descendants i) := by
  obtain ⟨all, hwalk, -, -, heq⟩ := ht.exists_below h
  rw [heq]
  exact hwalk.inOrder

/-! ## Attached elements

  Attached are the elements below the document node.  What is above one of them is on the way to the
  document node. -/

/-- What stands above by elements is an element. -/
theorem isElement_of_elementAbove (h : t.ElementAbove a i) : t.isElement a = true := by
  induction h with
  | parent hp => exact (parent?_of_parentElement? hp).2
  | further _ _ ih => exact ih

/-- Where the document node does not hang below itself, going up from an attached element ends: it
    comes to the document node, which is no element. -/
theorem Reachable.wayUpEnds (ht : t.Reachable) (hroot : ¬ t.Above root root)
    (hi : i ∈ t.descendants root) : t.WayUpEnds i :=
  wayUpEnds_of_above ht.isElement_root hroot ((ht.mem_descendants_iff hroot).1 hi).1

/-- **An element above an attached element is attached.** -/
theorem Reachable.mem_descendants_of_elementAbove (ht : t.Reachable) (hroot : ¬ t.Above root root)
    (hi : i ∈ t.descendants root) (ha : t.ElementAbove a i) : a ∈ t.descendants root := by
  rw [ht.mem_descendants_iff hroot] at hi ⊢
  have hel := isElement_of_elementAbove ha
  rcases eq_or_above_of_elementAbove ht.isElement_root ha hi.1 with rfl | h
  · rw [ht.isElement_root] at hel
    cases hel
  · exact ⟨h, hel⟩

/-! ## Attached elements above

  The same again without a condition on the document node: the visits alone show that they came by
  the parent of an element before. -/

/-- Nothing is asked of the document node here: what is visited was waiting, or it is the child of
    a node, and this one was visited before if it is an element. -/
theorem Reachable.exists_parent_of_mem_visit (ht : t.Reachable) {n : Nat} {waiting : List NodeId}
    (hj : j ∈ t.visit n waiting) :
    j ∈ waiting ∨ ∃ p, t.parent? j = some p ∧ (t.isElement p = true → p ∈ t.visit n waiting) := by
  induction n generalizing waiting with
  | zero => cases hj
  | succ n ih =>
    cases waiting with
    | nil => cases hj
    | cons i waiting =>
      have hlater : ∀ k, k ∈ t.visit n (t.children i ++ waiting) →
          k ∈ t.visit (n + 1) (i :: waiting) := by
        intro k hk
        rw [visit]
        split
        · exact List.mem_cons_of_mem _ hk
        · exact hk
      have hself : t.isElement i = true → i ∈ t.visit (n + 1) (i :: waiting) := by
        intro hi
        rw [visit, if_pos hi]
        exact List.mem_cons_self
      -- in one turn the first node in line is visited, and its children line up before the others
      have hcases : j = i ∨ j ∈ t.visit n (t.children i ++ waiting) := by
        rw [visit] at hj
        split at hj
        · exact List.mem_cons.1 hj
        · exact Or.inr hj
      rcases hcases with rfl | hj
      · exact Or.inl List.mem_cons_self
      · rcases ih hj with hmem | ⟨p, hp, hvisit⟩
        · rcases List.mem_append.1 hmem with hchild | hmem
          · exact Or.inr ⟨i, ht.mem_children_iff.1 hchild, hself⟩
          · exact Or.inl (List.mem_cons_of_mem _ hmem)
        · exact Or.inr ⟨p, hp, fun hel => hlater p (hvisit hel)⟩

/-- The parent element of an attached element is attached. -/
theorem Reachable.mem_descendants_of_parentElement? (ht : t.Reachable)
    (hi : i ∈ t.descendants root) (hp : t.parentElement? i = some p) : p ∈ t.descendants root := by
  obtain ⟨hparent, hel⟩ := parent?_of_parentElement? hp
  rcases ht.exists_parent_of_mem_visit hi with hchild | ⟨p', hp', hvisit⟩
  · -- the children of the document node have no parent element
    rw [ht.mem_children_iff, hparent, Option.some_inj] at hchild
    rw [hchild, ht.isElement_root] at hel
    cases hel
  · rw [hparent, Option.some_inj] at hp'
    subst hp'
    exact hvisit hel

/-- **The ancestors of an attached element are attached.** -/
theorem Reachable.mem_descendants_of_mem_ancestors (ht : t.Reachable)
    (hi : i ∈ t.descendants root) (ha : a ∈ t.ancestors i) : a ∈ t.descendants root := by
  have hwithin : ∀ n i, i ∈ t.descendants root → a ∈ t.ancestorsWithin n i →
      a ∈ t.descendants root := by
    intro n
    induction n with
    | zero => exact fun i _ ha => absurd ha List.not_mem_nil
    | succ n ih =>
      intro i hi ha
      rw [ancestorsWithin] at ha
      cases hp : t.parentElement? i with
      | none =>
        rw [hp] at ha
        cases ha
      | some p =>
        rw [hp] at ha
        have hattached := ht.mem_descendants_of_parentElement? hi hp
        rcases List.mem_cons.1 ha with rfl | ha
        · exact hattached
        · exact ih p hattached ha
  exact hwithin t.size i hi ha

end Pinpoint.Tree
