/-
  Finding targets as an equality of sets.

  A search asks for one target by the whole answer, for several by number and membership, and for a
  target among its siblings by an answer over other nodes.  All three ask about the same matches.

  1. **Targets are found exactly when the selector can be read, and matches them and no other
     attached element**, whichever way they are asked for.  So only the set of the targets counts.
  2. **Found alone in the document is found alone among the siblings**: the children of a node that
     has an attached child are attached, so what competes there competes in the document, too.  The
     element has to be one of these children (`Tree.AmongElements`); below a text it is not.
-/
import Pinpoint.Proofs.Document.Elements
import Pinpoint.Proofs.Search.Agreement
import Pinpoint.Proofs.Search.Anchoring

namespace Pinpoint

/-- A node that hangs where its siblings are looked up.  A search asks for the parent element of a
    node and looks among its children, or among those of the document node if it has none; a node
    below a text has no parent element, and is not there. -/
inductive Tree.AmongElements (t : Tree) (i : NodeId) : Prop
  /-- At the top, from the document node. -/
  | top (h : t.parent? i = some root)
  /-- From an element. -/
  | inside {p : NodeId} (h : t.parentElement? i = some p)

namespace Document

variable {d : Document} {e i p : NodeId} {targets : List NodeId} {s : String}

/-! ## Sets of targets

  A query goes through the attached elements and keeps those that match. -/

/-- What is found are the attached elements that match. -/
theorem findsExactly_iff_matches (ht : d.tree.Reachable) (ha : d.tree.Acyclic) :
    d.FindsExactly targets s ↔ ∃ x, Selector.parse s = .ok x ∧
      ∀ i, d.tree.Above Tree.root i ∧ d.tree.isElement i = true ∧ x.matchesAt d.tree i = true ↔
        i ∈ targets := by
  have hmem : ∀ (x : Selector) (i : NodeId), (i ∈ d.elements.filter fun i => x.matchesAt d.tree i) ↔
      d.tree.Above Tree.root i ∧ d.tree.isElement i = true ∧ x.matchesAt d.tree i = true := by
    intro x i
    rw [List.mem_filter, elements, ht.mem_descendants_iff (ha Tree.root), and_assoc]
  constructor
  · rintro ⟨found, hq, hfound⟩
    obtain ⟨x, hx, rfl⟩ := filterMatching_eq_ok_iff.1 hq
    exact ⟨x, hx, fun i => (hmem x i).symm.trans (hfound i)⟩
  · rintro ⟨x, hx, hmatches⟩
    exact ⟨_, filterMatching_eq_ok_iff.2 ⟨x, hx, rfl⟩, fun i => (hmem x i).trans (hmatches i)⟩

/-- The test of a search for one target is the test for several, and both ask for the targets and
    nothing else. -/
theorem resolvesTo_iff_findsExactly (ht : d.tree.Reachable) (ha : d.tree.Acyclic) :
    d.host.resolvesTo targets s = true ↔ d.FindsExactly targets s := by
  rw [Host.resolvesTo_eq_isSameSet, isSameSet_iff_findsExactly ht ha]

/-! ## Among siblings

  The siblings of an element are asked through its host, which looks them up by the parent
  element. -/

/-- The parent of such a node is its parent element, or the document node for want of one. -/
theorem parent?_of_amongElements (ht : d.tree.Reachable) (h : d.tree.AmongElements i) :
    d.tree.parent? i = some ((d.host.parent i).getD Tree.root) := by
  cases h with
  | top hp => exact parent?_eq_getD ht (Or.inl hp)
  | inside hp => exact parent?_eq_getD ht (Or.inr ⟨_, hp⟩)

/-- **An element found alone in the document is found alone among its siblings.**  All siblings are
    attached if one of them is, so each of them that matches is an answer in the document as
    well. -/
theorem isUniqueAmongSiblings_of_isUnique (ht : d.tree.Reachable) (ha : d.tree.Acyclic)
    (hp : d.tree.AmongElements e) (hu : d.host.isUnique e s = true) :
    d.host.isUniqueAmongSiblings e s = true := by
  obtain ⟨hne, hq⟩ := Host.isUnique_iff.1 hu
  obtain ⟨x, hx, hfound⟩ := filterMatching_eq_ok_iff.1 hq
  have hmem : ∀ i, i = e ↔ i ∈ d.elements ∧ x.matchesAt d.tree i = true := by
    intro i
    rw [← List.mem_singleton, hfound, List.mem_filter]
    rfl
  have he : e ∈ d.elements := ((hmem e).1 rfl).1
  -- what competes with `e` among the siblings competes with it in the document
  have hsiblings : ∀ i ∈ d.host.children (d.host.parent e),
      x.matchesAt d.tree i = true ↔ i = e := by
    intro i hi
    have hattached : i ∈ d.elements := mem_elements_of_mem_children ht (ha Tree.root)
      (fun _ hparent => ht.mem_descendants_of_parentElement? he hparent) hi
    rw [hmem i, and_iff_right hattached]
  have hself : e ∈ d.host.children (d.host.parent e) := ht.mem_elementChildren_iff.2
    ⟨parent?_of_amongElements ht hp, ((ht.mem_descendants_iff (ha Tree.root)).1 he).2⟩
  refine Host.isUniqueAmongSiblings_iff.2 ⟨hne, filterMatching_eq_ok_iff.2 ⟨x, hx, ?_⟩⟩
  exact (filter_eq_singleton (ht.nodup_elementChildren _) hself hsiblings).symm

/-! ## Targets

  All of it together. -/

/-- **A selector resolves to its targets when the attached elements that it matches are the
    targets.**  Neither their order nor a target listed twice counts, one target is asked for as a
    set of one, and an element found alone in the document, if it hangs from an element or from the
    document, is found alone among its siblings. -/
theorem resolvesTo_iff_matches (ht : d.tree.Reachable) (ha : d.tree.Acyclic) :
    (∀ targets s, d.host.resolvesTo targets s = true ↔ ∃ x, Selector.parse s = .ok x ∧
      ∀ i, d.tree.Above Tree.root i ∧ d.tree.isElement i = true ∧ x.matchesAt d.tree i = true ↔
        i ∈ targets) ∧
    (∀ targets targets' s, (∀ i, i ∈ targets ↔ i ∈ targets') →
      d.host.resolvesTo targets s = d.host.resolvesTo targets' s) ∧
    (∀ e s, d.host.isUnique e s = d.host.isSameSet [e] s) ∧
    ∀ e s, d.tree.AmongElements e → d.host.isUnique e s = true →
      d.host.isUniqueAmongSiblings e s = true := by
  refine ⟨fun targets s => ?_, fun targets targets' s hsame => ?_, fun e s => ?_,
    fun e s hp hu => ?_⟩
  · rw [resolvesTo_iff_findsExactly ht ha, findsExactly_iff_matches ht ha]
  · rw [Bool.eq_iff_iff, resolvesTo_iff_findsExactly ht ha, resolvesTo_iff_findsExactly ht ha,
      findsExactly_iff_matches ht ha, findsExactly_iff_matches ht ha]
    simp only [hsame]
  · exact Host.isUnique_eq_isSameSet d.host e s
  · exact isUniqueAmongSiblings_of_isUnique ht ha hp hu

/-- A list of three items, two of them alike, and a paragraph of the same class. -/
def likeItems : Document := Document.ofSteps
  [.edit (.element "ul"), .edit (.append 0 1), .edit (.element "li"), .edit (.append 1 2),
   .edit (.element "li"), .edit (.append 1 3), .edit (.element "li"), .edit (.append 1 4),
   .edit (.element "p"), .edit (.append 0 5), .edit (.attribute 2 "class" "a"),
   .edit (.attribute 3 "class" "a"), .edit (.attribute 4 "class" "b"),
   .edit (.attribute 5 "class" "a"), .finalize]

/-- The two items are found in whatever order they are listed; the third one is found alone in the
    document and so in its list. -/
theorem resolvesTo_iff_matches_likeItems :
    likeItems.tree.Acyclic ∧
    likeItems.host.resolvesTo [2, 3] "li.a" = true ∧
    likeItems.host.resolvesTo [3, 2, 3] "li.a" = true ∧
    (∃ x, Selector.parse "li.a" = .ok x ∧ ∀ i, likeItems.tree.Above Tree.root i ∧
      likeItems.tree.isElement i = true ∧ x.matchesAt likeItems.tree i = true ↔ i ∈ [2, 3]) ∧
    likeItems.host.isSameSet [4] ".b" = true ∧
    likeItems.host.isUniqueAmongSiblings 4 ".b" = true := by
  have ha : likeItems.tree.Acyclic := Tree.acyclic_of_parent?_lt (by decide +kernel)
  have hitems : likeItems.host.resolvesTo [2, 3] "li.a" = true := by decide +kernel
  have hthird : likeItems.host.isUnique 4 ".b" = true := by decide +kernel
  have hparent : likeItems.tree.parentElement? 4 = some 1 := by decide +kernel
  obtain ⟨hmatches, hsame, hone, hsiblings⟩ :=
    resolvesTo_iff_matches (d := likeItems) (Tree.reachable_ofSteps _) ha
  refine ⟨ha, hitems, ?_, (hmatches _ _).1 hitems, (hone 4 ".b").symm.trans hthird,
    hsiblings 4 ".b" (.inside hparent) hthird⟩
  rw [hsame [3, 2, 3] [2, 3] "li.a" (by simp)]
  exact hitems

end Document

end Pinpoint
