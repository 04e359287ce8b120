/-
  Document order, turn by turn.

  A walk below a node keeps a row of waiting nodes.  In each turn the first of them is taken out: it
  is found if it is an element, and its children wait where it stood.

  1. **The invariant of a walk** (`Walk.iterate_turn`): the turns go through what is in and below the
     front of the row, find its elements in order, and leave the rest of the row as it was.
  2. So a walk below a node that does not stand above itself comes to an end, with the descendants
     found, after as many turns as there are nodes below.
  3. **What is below a child is one block of what is below its parent** (`InOrder.exists_block`), and
     so is what is below any node further down.
  4. The descendants of a node are the one list in document order, and nothing else is in it
     (`descendants_in_order`).
-/
import Mathlib.Logic.Function.Iterate
import Pinpoint.Proofs.Document.Descendants

namespace Pinpoint.Tree

variable {t : Tree} {a b i j p : NodeId}

/-! ## Turns -/

/-- A walk under way: the nodes that wait, the next one first, and the elements found so far. -/
structure Tour where
  waiting : List NodeId
  found : List NodeId
  deriving Repr, DecidableEq

/-- One turn of a walk.  Where no node waits, the walk is over. -/
def turn (t : Tree) (w : Tour) : Tour :=
  match w.waiting with
  | [] => w
  | i :: waiting =>
    ⟨t.children i ++ waiting, w.found ++ if t.isElement i then [i] else []⟩

/-- **The turns go through the front of the row** and leave what waits behind it. -/
theorem Walk.iterate_turn {nodes all : List NodeId} (h : t.Walk nodes all)
    (waiting found : List NodeId) :
    t.turn^[all.length] ⟨nodes ++ waiting, found⟩ = ⟨waiting, found ++ all.filter t.isElement⟩ := by
  induction h generalizing waiting found with
  | nil => simp
  | @cons i nodes below later hb hl ihb ihl =>
    -- one turn for the node itself, then those below it, then those of the later nodes
    have hlen : (i :: (below ++ later)).length = later.length + (below.length + 1) := by
      simp only [List.length_cons, List.length_append]
      omega
    have hturn : t.turn ⟨i :: nodes ++ waiting, found⟩ =
        ⟨t.children i ++ (nodes ++ waiting), found ++ if t.isElement i then [i] else []⟩ := rfl
    rw [hlen, Function.iterate_add_apply, Function.iterate_add_apply, Function.iterate_one, hturn,
      ihb, ihl]
    cases hi : t.isElement i <;> simp [hi]

/-- **A walk below a node ends**, and then it has found the descendants. -/
theorem Reachable.exists_iterate_turn (ht : t.Reachable) (h : ¬ t.Above i i) :
    ∃ n ≤ t.size, t.turn^[n] ⟨t.children i, []⟩ = ⟨[], t.descendants i⟩ := by
  obtain ⟨all, hwalk, hnd, hmem, heq⟩ := ht.exists_below h
  have hlen : all.length ≤ t.size :=
    length_le_of_nodup hnd fun j hj => (ht.lt_size_of_above ((hmem j).1 hj)).2
  have hturns := hwalk.iterate_turn [] []
  rw [List.append_nil, List.nil_append, ← heq] at hturns
  exact ⟨all.length, hlen, hturns⟩

/-! ## Blocks -/

/-- The elements in and below one of some nodes stand together in their order. -/
theorem InOrder.exists_block {nodes out : List NodeId} (h : t.InOrder nodes out) (hi : i ∈ nodes) :
    ∃ below, t.InOrder (t.children i) below ∧
      (if t.isElement i then [i] else []) ++ below <:+: out := by
  induction h with
  | nil => cases hi
  | @cons k nodes below later hb hl _ ihl =>
    rcases List.mem_cons.1 hi with rfl | hi
    · exact ⟨below, hb, (List.prefix_append _ later).isInfix⟩
    · obtain ⟨below', hb', hblock⟩ := ihl hi
      exact ⟨below', hb', hblock.trans (List.suffix_append _ later).isInfix⟩

/-- What is below a child is a block of what is below its parent. -/
theorem Reachable.descendants_infix_of_parent? (ht : t.Reachable) (hp : ¬ t.Above p p)
    (hi : t.parent? i = some p) : t.descendants i <:+: t.descendants p := by
  obtain ⟨below, hbelow, hblock⟩ :=
    (ht.inOrder_descendants hp).exists_block (ht.mem_children_iff.2 hi)
  have hii : ¬ t.Above i i := not_above_self_of_above hp (.parent hi)
  have heq : below = t.descendants i := hbelow.unique (ht.inOrder_descendants hii)
  rw [heq] at hblock
  exact (List.suffix_append _ _).isInfix.trans hblock

/-- **What is below a node is a block of what is below any node above it.** -/
theorem Reachable.descendants_infix (ht : t.Reachable) (hb : ¬ t.Above b b) (h : t.Above b a) :
    t.descendants a <:+: t.descendants b := by
  induction h with
  | parent hp => exact ht.descendants_infix_of_parent? hb hp
  | further hp habove ih =>
    have hpp := not_above_self_of_above hb habove
    exact (ht.descendants_infix_of_parent? hpp hp).trans ih

/-! ## Descendants -/

/-- **The descendants of a node in a tree without circles.**  The walk below the node ends, within
    as many turns as the tree has nodes, and has found them then.  They are the list that document
    order, read off the children by recursion, makes of what is below the node; each element below
    the node is in it once, and nothing else, so not the node itself.  The list of a node is one
    block of the list of every node above it. -/
theorem descendants_in_order (ht : t.Reachable) (ha : t.Acyclic) (i : NodeId) :
    (∃ n ≤ t.size, t.turn^[n] ⟨t.children i, []⟩ = ⟨[], t.descendants i⟩) ∧
    (∀ out, t.InOrder (t.children i) out ↔ out = t.descendants i) ∧
    (∀ j, t.Above i j → t.isElement j = true → (t.descendants i).count j = 1) ∧
    (∀ j ∈ t.descendants i, t.Above i j ∧ t.isElement j = true ∧ j ≠ i) ∧
    ∀ b, i = b ∨ t.Above b i → t.descendants i <:+: t.descendants b := by
  have hinOrder := ht.inOrder_descendants (ha i)
  refine ⟨ht.exists_iterate_turn (ha i), fun out => ?_, fun j hj hel => ?_, fun j hj => ?_,
    fun b hb => ?_⟩
  · constructor
    · intro hout
      exact hout.unique hinOrder
    · rintro rfl
      exact hinOrder
  · have hmem : j ∈ t.descendants i := (ht.mem_descendants_iff (ha i)).2 ⟨hj, hel⟩
    exact List.count_eq_one_of_mem (ht.nodup_descendants (ha i)) hmem
  · obtain ⟨habove, hel⟩ := (ht.mem_descendants_iff (ha i)).1 hj
    refine ⟨habove, hel, ?_⟩
    rintro rfl
    exact ha j habove
  · rcases hb with rfl | hb
    · exact List.infix_rfl
    · exact ht.descendants_infix (ha b) hb

/-- A heading, made last, before a list; the item of the list hangs from a comment. -/
def mixedEdits : List Edit :=
  [.element "div", .element "ul", .comment "c", .element "li", .text "x", .element "h1",
   .append 0 1, .append 1 6, .append 1 2, .append 2 5, .append 2 3, .append 3 4]

/-- The item is found below the list, though no element is its parent. -/
theorem descendants_in_order_mixed :
    (ofEdits mixedEdits).Acyclic ∧
    (ofEdits mixedEdits).InOrder ((ofEdits mixedEdits).children 1) [6, 2, 4] ∧
    ((ofEdits mixedEdits).descendants 1).count 4 = 1 ∧
    (ofEdits mixedEdits).descendants 2 <:+: [6, 2, 4] := by
  have ht : (ofEdits mixedEdits).Reachable := ⟨mixedEdits, rfl⟩
  have ha : (ofEdits mixedEdits).Acyclic := acyclic_of_parent?_lt (by decide)
  have hlist : (ofEdits mixedEdits).descendants 1 = [6, 2, 4] := by decide
  have hitem : (ofEdits mixedEdits).Above 1 4 :=
    .further (p := 3) (by decide) (.further (p := 2) (by decide) (.parent (by decide)))
  have hul : (ofEdits mixedEdits).Above 1 2 := .parent (by decide)
  obtain ⟨-, horder, honce, -, -⟩ := descendants_in_order ht ha 1
  obtain ⟨-, -, -, -, hblock⟩ := descendants_in_order ht ha 2
  refine ⟨ha, (horder _).2 hlist.symm, honce 4 hitem (by decide), ?_⟩
  rw [← hlist]
  exact hblock 1 (Or.inr hul)

end Pinpoint.Tree
