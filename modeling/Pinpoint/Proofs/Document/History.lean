/-
  The shape of a tree after any history.

  Links are redundant: what a node knows of its neighbours follows from the lists of children.  So a
  history of edits can be read on plain lists (`ChildLists`), and the tree shows nothing else.

  1. The walk along the siblings ends by itself: however many steps it may take, it yields the list
     of the node (`Agrees.siblingsFrom_firstChild`).
  2. **What hanging a node does**, said of the tree alone: one list gets the node at its end, and no
     content changes; or the tree stays as it is.
  3. **After any history links and lists agree**, and so does each step taken from there
     (`ofEdits_shows_lists`).
-/
import Pinpoint.Proofs.Document.Contents

namespace Pinpoint

variable {t : Tree} {m : ChildLists} {p c parent child : NodeId}

/-! ## Walks that end -/

/-- **The bound does not cut the walk off**: any bound from the length of the list on yields the
    list. -/
theorem Agrees.siblingsFrom_firstChild (h : Agrees t m) (p : NodeId) {bound : Nat}
    (hb : (m.children p).length ≤ bound) :
    t.siblingsFrom bound (t.links p).firstChild = m.children p := by
  rw [h.firstChild_eq]
  exact h.siblingsFrom_eq (l := []) rfl hb

/-- A node with a parent stands once among the children of this parent, and nowhere else. -/
theorem Agrees.count_eq_one (h : Agrees t m) (hc : t.parent? c = some p) :
    (m.children p).count c = 1 ∧ ∀ q, c ∈ m.children q → q = p := by
  rw [Tree.parent?_eq_links] at hc
  refine ⟨List.count_eq_one_of_mem (h.nodup p) ((h.parent_iff p c).1 hc), fun q hq => ?_⟩
  have hq := (h.parent_iff q c).2 hq
  rw [hc, Option.some_inj] at hq
  exact hq.symm

/-! ## Hanging a node -/

/-- Hanging a node writes it at the end of one list. -/
theorem Agrees.children_of_canHang (h : Agrees t m) (hh : t.CanHang parent child) (q : NodeId) :
    (t.append parent child).children q =
      if q = parent then t.children parent ++ [child] else t.children q := by
  rw [(h.append parent child).children_eq, h.children_append hh, h.children_eq, h.children_eq]

/-! ## Histories -/

namespace Tree

/-- **Links are lists of children, after any history of edits.**

    The two agree node by node: a node has a parent exactly when it stands in that parent's list,
    and it stands there once and in no other list; the first and the last link are the ends of the
    list, the links between siblings the neighbours in it, and at the ends there is none.  The walk
    along the siblings yields the list, whatever number of steps it is allowed beyond its length.

    From there, hanging a node adds it at the end of one list when the two nodes exist and differ
    and the node hangs nowhere, and changes nothing otherwise; no list of another node and no
    content is touched. -/
theorem ofEdits_shows_lists (edits : List Edit) :
    Agrees (ofEdits edits) (ChildLists.ofEdits edits) ∧
    (∀ p, (ofEdits edits).children p = (ChildLists.ofEdits edits).children p ∧
      ∀ bound, ((ofEdits edits).children p).length ≤ bound →
        (ofEdits edits).siblingsFrom bound ((ofEdits edits).links p).firstChild =
          (ofEdits edits).children p) ∧
    (∀ c p, (ofEdits edits).parent? c = some p →
      ((ofEdits edits).children p).count c = 1 ∧
        ∀ q, c ∈ (ofEdits edits).children q → q = p) ∧
    ∀ parent child,
      ((ofEdits edits).CanHang parent child → ∀ q,
        ((ofEdits edits).append parent child).children q =
          if q = parent then (ofEdits edits).children parent ++ [child]
          else (ofEdits edits).children q) ∧
      (¬ (ofEdits edits).CanHang parent child →
        (ofEdits edits).append parent child = ofEdits edits) ∧
      ∀ i, ((ofEdits edits).append parent child).content? i = (ofEdits edits).content? i := by
  have h := Agrees.ofEdits edits
  refine ⟨h, fun p => ⟨h.children_eq p, fun bound hb => ?_⟩, fun c p hc => ?_,
    fun parent child => ⟨h.children_of_canHang, append_eq_self, content?_append _ _ _⟩⟩
  · rw [h.children_eq] at hb ⊢
    exact h.siblingsFrom_firstChild p hb
  · simp only [h.children_eq]
    exact h.count_eq_one hc

/-- Two nodes hung below a third, one of them a second time and elsewhere, and one below itself. -/
def crossedEdits : List Edit :=
  [.element "a", .text "x", .element "b", .append 1 2, .append 1 3, .append 0 1, .append 3 2,
   .append 3 3]

/-- The two edits in vain have left no trace; the next one may even hang the document node below
    what is below it, and still no walk along siblings goes astray. -/
theorem ofEdits_shows_lists_crossed :
    (ofEdits crossedEdits).parent? 2 = some 1 ∧
    (ofEdits crossedEdits).children 1 = [2, 3] ∧
    (∀ q, 2 ∈ (ofEdits crossedEdits).children q → q = 1) ∧
    ¬ (ofEdits crossedEdits).CanHang 3 2 ∧
    (ofEdits crossedEdits).append 3 2 = ofEdits crossedEdits ∧
    (ofEdits crossedEdits).CanHang 3 0 ∧
    ((ofEdits crossedEdits).append 3 0).children 3 = [0] := by
  obtain ⟨-, -, honce, happend⟩ := ofEdits_shows_lists crossedEdits
  have hp : (ofEdits crossedEdits).parent? 2 = some 1 := by decide
  have hno : ¬ (ofEdits crossedEdits).CanHang 3 2 := fun h => absurd h.free (by decide)
  have hyes : (ofEdits crossedEdits).CanHang 3 0 := ⟨by decide, by decide, by decide, by decide⟩
  refine ⟨hp, by decide, (honce 2 1 hp).2, hno, (happend 3 2).2.1 hno, hyes, ?_⟩
  rw [(happend 3 0).1 hyes 3, if_pos rfl]
  decide

end Tree

end Pinpoint
