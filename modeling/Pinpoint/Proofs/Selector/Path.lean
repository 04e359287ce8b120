/-
  A match of an alternative is a row of nodes.

  The matcher goes from right to left and walks up the tree, trying one ancestor after the other;
  a row of nodes says nothing of an order in which it is found.

  1. **A row grows at its right end** (`HoldsAlong.concat`, `HoldsAlong.of_concat`): one more node
     at which one more compound holds, and one more link to the node before it.
  2. The match of an alternative grows in the same way (`matchesAt_concat`), so by induction on the
     parts, from the left, the two are the same (`matchesAt_iff_exists_row`).
  3. The link of the first part is asked for by neither.
-/
import Pinpoint.Document.Edit
import Pinpoint.Proofs.Selector.Matching

namespace Pinpoint

/-! ## Lists with one more entry

  Parts and nodes are two lists that grow together. -/

section Concat

variable {α β : Type} {l : List α} {m : List β} {k : Nat} {a b : α} {c d : β}

/-- An entry has a place below the length. -/
theorem lt_length_of_getElem? (h : l[k]? = some b) : k < l.length :=
  (List.getElem?_eq_some_iff.1 h).1

/-- A place in a list with one more entry is a place in the list, or the new one. -/
theorem getElem?_concat_eq_some_iff :
    (l ++ [a])[k]? = some b ↔ l[k]? = some b ∨ k = l.length ∧ a = b := by
  grind

/-- What stands in one place of two lists that grow together is old in both or new in both. -/
theorem getElem?_concat_cases (hlen : l.length = m.length) (hb : (l ++ [a])[k]? = some b)
    (hd : (m ++ [c])[k]? = some d) :
    (l[k]? = some b ∧ m[k]? = some d) ∨ (k = l.length ∧ a = b ∧ c = d) := by
  rcases getElem?_concat_eq_some_iff.1 hb with hb | ⟨hk, hb⟩
  · rcases getElem?_concat_eq_some_iff.1 hd with hd | ⟨hk, -⟩
    · exact Or.inl ⟨hb, hd⟩
    · have hlt := lt_length_of_getElem? hb
      omega
  · rcases getElem?_concat_eq_some_iff.1 hd with hd | ⟨-, hd⟩
    · have hlt := lt_length_of_getElem? hd
      omega
    · exact Or.inr ⟨hk, hb, hd⟩

end Concat

namespace Complex

variable {t : Tree} {a i : NodeId} {x later : Complex} {p : Part} {path : List NodeId}

/-! ## Rows of nodes

  A row is the specification: what it is to match, without saying how to look for it. -/

/-- No parts hold along no nodes. -/
theorem holdsAlong_nil (t : Tree) : HoldsAlong t [] [] := ⟨rfl, nofun, nofun⟩

/-- They hold along no others. -/
theorem not_holdsAlong_nil_concat : ¬ HoldsAlong t [] (path ++ [i]) := by
  intro h
  have := h.length_eq
  simp at this

/-- **One more node**, which stands to the end of the row as the link says. -/
theorem HoldsAlong.concat (h : x.HoldsAlong t path)
    (hp : Compound.matchesAt t i p.compound = true)
    (hlink : ∀ a, path.getLast? = some a → (p.combinator.getD .descendant).Links t a i) :
    HoldsAlong t (x ++ [p]) (path ++ [i]) where
  length_eq := by simp [h.length_eq]
  compounds k q j hq hj := by
    rcases getElem?_concat_cases h.length_eq.symm hq hj with ⟨hq, hj⟩ | ⟨-, rfl, rfl⟩
    · exact h.compounds k q j hq hj
    · exact hp
  links k q b j hq hb hj := by
    -- the node before the place is an old one in both cases
    have hb' : path[k]? = some b := by
      rcases getElem?_concat_eq_some_iff.1 hb with hb | ⟨hk, -⟩
      · exact hb
      · have hlt := lt_length_of_getElem? hj
        simp only [List.length_append, List.length_singleton] at hlt
        omega
    rcases getElem?_concat_cases h.length_eq.symm hq hj with ⟨hq, hj⟩ | ⟨hk, rfl, rfl⟩
    · exact h.links k q b j hq hb' hj
    · have hlast : path.length - 1 = k := by rw [h.length_eq, ← hk]; rfl
      exact hlink b (by rw [List.getLast?_eq_getElem?, hlast, hb'])

/-- **One node less**: the row before it, the compound at the node, and its link to the end of the
    row. -/
theorem HoldsAlong.of_concat (h : HoldsAlong t (x ++ [p]) (path ++ [i])) :
    x.HoldsAlong t path ∧ Compound.matchesAt t i p.compound = true ∧
      ∀ a, path.getLast? = some a → (p.combinator.getD .descendant).Links t a i := by
  have hlen : path.length = x.length := by
    have := h.length_eq
    simp only [List.length_append, List.length_singleton] at this
    omega
  -- an old entry is an entry of the longer list
  have hold {α : Type} {l : List α} {a b : α} {k : Nat} (h : l[k]? = some b) :
      (l ++ [a])[k]? = some b := getElem?_concat_eq_some_iff.2 (Or.inl h)
  have hp : (x ++ [p])[path.length]? = some p :=
    getElem?_concat_eq_some_iff.2 (Or.inr ⟨hlen, rfl⟩)
  have hi : (path ++ [i])[path.length]? = some i :=
    getElem?_concat_eq_some_iff.2 (Or.inr ⟨rfl, rfl⟩)
  refine ⟨⟨hlen, fun k q j hq hj => ?_, fun k q b j hq hb hj => ?_⟩, ?_, fun a ha => ?_⟩
  · exact h.compounds k q j (hold hq) (hold hj)
  · exact h.links k q b j (hold hq) (hold hb) (hold hj)
  · exact h.compounds path.length p i hp hi
  · rw [List.getLast?_eq_getElem?] at ha
    have hlt := lt_length_of_getElem? ha
    have hk : path.length = path.length - 1 + 1 := by omega
    rw [hk] at hp hi
    exact h.links (path.length - 1) p a i hp (hold ha) hi

/-- Another link of the first part changes no row.  The first node has none before it to be linked
    to. -/
theorem HoldsAlong.of_compound_eq (h : HoldsAlong t (p :: later) path) {p' : Part}
    (hc : p'.compound = p.compound) : HoldsAlong t (p' :: later) path where
  length_eq := h.length_eq
  compounds k q j hq hj := by
    cases k with
    | zero =>
      cases hq
      exact hc ▸ h.compounds 0 p j rfl hj
    | succ k => exact h.compounds (k + 1) q j hq hj
  links := h.links

/-! ## Matches

  The matcher tries a part at a node, and the rest at its parent or at any node above. -/

/-- **A match is a row that ends at the node.**  By induction on the parts, from the left; on either
    side one more part is one more node, linked to the one before. -/
theorem matchesAt_iff_exists_row (ht : t.Reachable) (ha : t.Acyclic) :
    x.matchesAt t i = true ↔ ∃ path, x.HoldsAlong t (path ++ [i]) := by
  induction x using List.reverseRecOn generalizing i with
  | nil => exact ⟨nofun, fun ⟨_, h⟩ => absurd h not_holdsAlong_nil_concat⟩
  | append_singleton x p ih =>
    rw [matchesAt_concat ht (ha.wayUpEnds i)]
    constructor
    · rintro ⟨hp, rfl | ⟨a, hlink, hm⟩⟩
      · exact ⟨[], (holdsAlong_nil t).concat hp nofun⟩
      · obtain ⟨path, hpath⟩ := ih.1 hm
        refine ⟨path ++ [a], hpath.concat hp fun b hb => ?_⟩
        rw [List.getLast?_concat, Option.some_inj] at hb
        exact hb ▸ hlink
    · rintro ⟨path, hpath⟩
      obtain ⟨hx, hp, hlink⟩ := hpath.of_concat
      refine ⟨hp, ?_⟩
      -- the row before the node is empty, or it ends at a node that the rest matches
      rcases List.eq_nil_or_concat' path with rfl | ⟨path', a, rfl⟩
      · exact Or.inl (List.length_eq_zero_iff.1 hx.length_eq.symm)
      · exact Or.inr ⟨a, hlink a List.getLast?_concat, ih.2 ⟨path', hx⟩⟩

/-- **An alternative matches a node exactly when it has a part and it holds along a row of nodes
    that ends at this one**: each compound at its node, each node below the one before it as the
    link says.  The link of the first part does not count. -/
theorem matchesAt_iff_holdsAlong (t : Tree) (ht : t.Reachable) (ha : t.Acyclic) (i : NodeId) :
    (∀ x : Complex, x.matchesAt t i = true ↔
      1 ≤ x.length ∧ ∃ path, path.getLast? = some i ∧ x.HoldsAlong t path) ∧
    ∀ (op op' : Option Combinator) (c : Compound) (later : Complex),
      Complex.matchesAt t i (⟨op, c⟩ :: later) = Complex.matchesAt t i (⟨op', c⟩ :: later) := by
  refine ⟨fun x => ?_, fun op op' c later => ?_⟩
  · rw [matchesAt_iff_exists_row ht ha]
    constructor
    · rintro ⟨path, h⟩
      refine ⟨?_, path ++ [i], List.getLast?_concat, h⟩
      rw [← h.length_eq, List.length_append]
      exact Nat.le_add_left 1 _
    · rintro ⟨-, path, hlast, h⟩
      obtain ⟨path', rfl⟩ := List.getLast?_eq_some_iff.1 hlast
      exact ⟨path', h⟩
  · rw [Bool.eq_iff_iff, matchesAt_iff_exists_row ht ha, matchesAt_iff_exists_row ht ha]
    exact exists_congr fun path =>
      ⟨fun h => h.of_compound_eq rfl, fun h => h.of_compound_eq rfl⟩

/-- Three sections, one in the other, and a paragraph in the innermost; the outermost is marked. -/
def nestedSections : Tree := Tree.ofEdits
  [.element "section", .append 0 1, .element "section", .append 1 2, .element "section",
   .append 2 3, .element "p", .append 3 4, .attribute 1 "class" "top"]

/-- The nearest section above the paragraph does not hang below the marked one; the next one
    does. -/
theorem matchesAt_nested_paragraph :
    nestedSections.Reachable ∧ nestedSections.Acyclic ∧
    ∃ path, path.getLast? = some 4 ∧ Complex.HoldsAlong nestedSections
      [⟨none, [.className "top"]⟩, ⟨some .child, [.tag "section"]⟩, ⟨some .descendant, [.tag "p"]⟩]
      path := by
  have ht : nestedSections.Reachable := ⟨_, rfl⟩
  have ha : nestedSections.Acyclic := Tree.acyclic_of_parent?_lt (by decide +kernel)
  exact ⟨ht, ha, (((matchesAt_iff_holdsAlong nestedSections ht ha 4).1 _).1 (by decide +kernel)).2⟩

end Complex

end Pinpoint
