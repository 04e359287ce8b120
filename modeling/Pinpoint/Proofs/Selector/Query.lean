/-
  Questions about parts of a document.

  1. **Below a node** are the elements of the document that stand below it, in their order: what is
     below it is one block of the whole.  A match looks at all that stands above an element, also
     above the node where a query starts; so a query below a node answers those answers of the
     query below the document node that are below the node.
  2. **Above an element** everything is in line: of two ancestors, the one found first stands below
     the other.  So the first match going up is the innermost one.
  3. A list of selectors answers what one of them matches (`queries_compose`).
-/
import Pinpoint.Proofs.Document.Preorder
import Pinpoint.Proofs.Search.DocumentHost
import Pinpoint.Proofs.Selector.Listing

namespace Pinpoint

/-! ## Lists

  Two facts on lists that are in order. -/

section Lists

variable {α : Type} {l m : List α} {p : α → Bool} {R : α → α → Prop} {c : α}

/-- In a list without repetitions, keeping the items of a part of it leaves this part. -/
theorem filter_eq_of_sublist (h : l.Sublist m) (hnd : m.Nodup)
    (hp : ∀ x ∈ m, p x = true ↔ x ∈ l) : m.filter p = l := by
  have hself : l.filter p = l := List.filter_eq_self.2 fun x hx => (hp x (h.subset hx)).2 hx
  have hsub : l.Sublist (m.filter p) := hself ▸ h.filter p
  have hback : m.filter p ⊆ l := by
    intro x hx
    obtain ⟨hmem, hpx⟩ := List.mem_filter.1 hx
    exact (hp x hmem).1 hpx
  exact (hsub.eq_of_length_le (List.subperm_of_subset (hnd.filter p) hback).length_le).symm

/-- In a list in order, the item found is the first of those that may be found.  The order must not
    run both ways, or else two items could each come before the other. -/
theorem find?_eq_some_iff_of_pairwise (hl : l.Pairwise R) (hasymm : ∀ x y, R x y → ¬ R y x) :
    l.find? p = some c ↔ c ∈ l ∧ p c = true ∧ ∀ b ∈ l, p b = true → b = c ∨ R c b := by
  induction l with
  | nil => simp
  | cons x l ih =>
    obtain ⟨hx, hl⟩ := List.pairwise_cons.1 hl
    cases hpx : p x with
    | true =>
      rw [List.find?_cons_of_pos hpx, Option.some_inj]
      constructor
      · rintro rfl
        refine ⟨List.mem_cons_self, hpx, fun b hb _ => ?_⟩
        exact (List.mem_cons.1 hb).imp_right (hx b)
      · rintro ⟨hc, -, hfirst⟩
        rcases hfirst x List.mem_cons_self hpx with hxc | hcx
        · exact hxc
        · exact ((List.mem_cons.1 hc).resolve_right fun hc => hasymm _ _ hcx (hx c hc)).symm
    | false =>
      -- the first item is passed over, so it is none of those that count
      have hne : ∀ b, p b = true → b ≠ x := by
        rintro b hb rfl
        rw [hpx] at hb
        cases hb
      rw [List.find?_cons_of_neg (by rw [hpx]; exact Bool.false_ne_true), ih hl]
      simp only [List.mem_cons, forall_eq_or_imp, hpx, Bool.false_eq_true, false_implies, true_and]
      refine and_congr_left fun hc => ?_
      rw [or_iff_right (hne c hc.1)]

end Lists

/-! ## Above and below

  A node and what is below it, or above it, in a tree without circles. -/

namespace Tree

variable {t : Tree} {a b e i : NodeId}

open Classical in
/-- **The elements below a node, among those below a node above it.**  They are one block there and
    keep their order, so picking those that stand below the node gives the block. -/
theorem Reachable.descendants_eq_filter (ht : t.Reachable) (hb : ¬ t.Above b b)
    (h : a = b ∨ t.Above b a) :
    t.descendants a = (t.descendants b).filter fun i => decide (t.Above a i) := by
  have haa : ¬ t.Above a a := by
    rcases h with rfl | h
    · exact hb
    · exact not_above_self_of_above hb h
  have hblock : t.descendants a <:+: t.descendants b := by
    rcases h with rfl | h
    · exact List.infix_rfl
    · exact ht.descendants_infix hb h
  refine (filter_eq_of_sublist hblock.sublist (ht.nodup_descendants hb) fun i hi => ?_).symm
  rw [decide_eq_true_eq, ht.mem_descendants_iff haa,
    and_iff_left ((ht.mem_descendants_iff hb).1 hi).2]

/-- **Going up, each element stands above all that came before it.**  By induction on the depth. -/
theorem Reachable.pairwise_ancestors (ht : t.Reachable) (h : t.WayUpEnds i) :
    (i :: t.ancestors i).Pairwise fun x y => t.ElementAbove y x := by
  induction hd : t.elementDepth i using Nat.strongRecOn generalizing i with
  | _ n ih =>
    subst hd
    refine List.pairwise_cons.2 ⟨fun x hx => (ht.mem_ancestors_iff h).1 hx, ?_⟩
    cases hp : t.parentElement? i with
    | none =>
      rw [ancestors_of_parentElement?_none hp]
      exact List.Pairwise.nil
    | some p =>
      rw [ht.ancestors_of_parentElement? h hp]
      exact ih _ (ht.elementDepth_lt h (.parent hp)) (h.of_elementAbove (.parent hp)) rfl

end Tree

namespace Document

variable {d : Document} {a c e i : NodeId} {s s₁ s₂ : String} {x x₁ x₂ : Selector}

/-! ## Answers to a selector that can be read

  Where the text is a selector, no question fails, and what is answered is said by matches. -/

/-- Whether a node matches. -/
theorem isMatch_eq (h : Selector.parse s = .ok x) (i : NodeId) :
    d.isMatch i s = .ok (x.matchesAt d.tree i) := by
  rw [isMatch, h]
  rfl

/-- All elements below a node that match. -/
theorem queryAll_eq (h : Selector.parse s = .ok x) (a : NodeId) :
    d.queryAll a s = .ok ((d.tree.descendants a).filter fun i => x.matchesAt d.tree i) :=
  filterMatching_eq_ok_iff.2 ⟨x, h, rfl⟩

/-- **The query for one gives the first of all.**  It stops at the first match and need not look any
    further. -/
theorem query?_eq_map_head? (h : Selector.parse s = .ok x) (a : NodeId) :
    d.query? a s = (d.queryAll a s).map List.head? := by
  rw [queryAll_eq h, query?, h, Except.map, List.head?_filter]
  rfl

open Classical in
/-- **Below a node, the answers are those of the document that are below the node.**  A selector is
    matched at an element with all that is above it, wherever the query starts. -/
theorem queryAll_eq_filter (ht : d.tree.Reachable) (ha : d.tree.Acyclic)
    (hattached : a = Tree.root ∨ d.tree.Above Tree.root a) (h : Selector.parse s = .ok x) :
    ∃ all, d.queryAll Tree.root s = .ok all ∧
      d.queryAll a s = .ok (all.filter fun i => decide (d.tree.Above a i)) := by
  refine ⟨_, queryAll_eq h Tree.root, ?_⟩
  rw [queryAll_eq h, ht.descendants_eq_filter (ha Tree.root) hattached, List.filter_filter,
    List.filter_filter]
  simp only [Bool.and_comm]

/-- **The answer going up is the innermost match**, of the element and all above it.  There is one
    if anything on the way matches, and every other match is above it. -/
theorem exists_closest?_eq (ht : d.tree.Reachable) (ha : d.tree.Acyclic)
    (he : d.tree.isElement e = true) (h : Selector.parse s = .ok x) :
    ∃ answer, d.closest? e s = .ok answer ∧
      (answer = none ↔ ∀ c, c = e ∨ d.tree.ElementAbove c e → x.matchesAt d.tree c = false) ∧
      ∀ c, answer = some c ↔ (c = e ∨ d.tree.ElementAbove c e) ∧ x.matchesAt d.tree c = true ∧
        ∀ b, b = e ∨ d.tree.ElementAbove b e → x.matchesAt d.tree b = true →
          b = c ∨ d.tree.ElementAbove b c := by
  have hup : d.tree.WayUpEnds e := ha.wayUpEnds e
  have hmem : ∀ c, c ∈ e :: d.tree.ancestors e ↔ c = e ∨ d.tree.ElementAbove c e := fun c => by
    rw [List.mem_cons, ht.mem_ancestors_iff hup]
  -- the walk up lists inner elements first, and without circles no two are above each other
  have hasymm : ∀ b c, d.tree.ElementAbove c b → ¬ d.tree.ElementAbove b c :=
    fun b c hcb hbc => ha b (hbc.trans hcb).above
  refine ⟨(e :: d.tree.ancestors e).find? fun i => x.matchesAt d.tree i, ?_, ?_, fun c => ?_⟩
  · rw [closest?, h]
    show Except.ok (List.find? _ (if d.tree.isElement e then _ else _)) = _
    rw [if_pos he]
  · simp only [List.find?_eq_none, hmem, Bool.not_eq_true]
  · rw [find?_eq_some_iff_of_pairwise (ht.pairwise_ancestors hup) hasymm]
    simp only [hmem]

/-! ## Parts of a document and lists of selectors

  The main theorem puts together what each question answers, for two selectors with a comma between
  them and for each of them alone. -/

/-- A node is said to match if it does. -/
theorem isMatch_eq_true_iff (h : Selector.parse s = .ok x) :
    d.isMatch i s = .ok true ↔ x.matchesAt d.tree i = true := by
  rw [isMatch_eq h, Except.ok.injEq]

open Classical in
/-- **Queries over parts of a document and lists of selectors.**  Two selectors with a comma between
    them are one selector with the alternatives of both.  Below an attached node its answers are, in
    document order and each of them once, the elements there that one of the two matches.  What a
    selector answers below the node is what it answers in the whole document, but for those that
    are not below the node, and the first of them is the answer to a query for one.  Going up from
    an element, the answer is the innermost match. -/
theorem queries_compose (ht : d.tree.Reachable) (ha : d.tree.Acyclic)
    (hattached : a = Tree.root ∨ d.tree.Above Tree.root a)
    (h₁ : Selector.parse s₁ = .ok x₁) (h₂ : Selector.parse s₂ = .ok x₂) :
    Selector.parse (s₁ ++ "," ++ s₂) = .ok (x₁ ++ x₂) ∧
    (∃ found out, d.queryAll a (s₁ ++ "," ++ s₂) = .ok found ∧
      d.tree.InOrder (d.tree.children a) out ∧ found.Sublist out ∧ found.Nodup ∧
      ∀ i, i ∈ found ↔ (d.tree.Above a i ∧ d.tree.isElement i = true) ∧
        (d.isMatch i s₁ = .ok true ∨ d.isMatch i s₂ = .ok true)) ∧
    (∃ all, d.queryAll Tree.root s₁ = .ok all ∧
      d.queryAll a s₁ = .ok (all.filter fun i => decide (d.tree.Above a i))) ∧
    d.query? a s₁ = (d.queryAll a s₁).map List.head? ∧
    ∀ e, d.tree.isElement e = true → ∃ answer, d.closest? e s₁ = .ok answer ∧
      (answer = none ↔
        ∀ c, c = e ∨ d.tree.ElementAbove c e → d.isMatch c s₁ = .ok false) ∧
      ∀ c, answer = some c ↔
        (c = e ∨ d.tree.ElementAbove c e) ∧ d.isMatch c s₁ = .ok true ∧
          ∀ b, b = e ∨ d.tree.ElementAbove b e → d.isMatch b s₁ = .ok true →
            b = c ∨ d.tree.ElementAbove b c := by
  have hboth : Selector.parse (s₁ ++ "," ++ s₂) = .ok (x₁ ++ x₂) := Selector.parse_comma h₁ h₂
  refine ⟨hboth, ⟨_, d.tree.descendants a, queryAll_eq hboth a, ht.inOrder_descendants (ha a),
    List.filter_sublist, (ht.nodup_descendants (ha a)).filter _, fun i => ?_⟩,
    queryAll_eq_filter ht ha hattached h₁, query?_eq_map_head? h₁ a, fun e he => ?_⟩
  · rw [List.mem_filter, ht.mem_descendants_iff (ha a), Selector.matchesAt_append, Bool.or_eq_true,
      isMatch_eq_true_iff h₁, isMatch_eq_true_iff h₂]
  · simp only [isMatch_eq h₁, Except.ok.injEq]
    exact exists_closest?_eq ht ha he h₁

/-- A marked part of a page with a marked box and a heading in it, and a heading behind it. -/
def nestedBoxes : Document := Document.ofSteps
  [.edit (.element "main"), .edit (.append 0 1), .edit (.element "div"), .edit (.append 1 2),
   .edit (.element "p"), .edit (.append 2 3), .edit (.element "h1"), .edit (.append 1 4),
   .edit (.element "h1"), .edit (.append 0 5), .edit (.attribute 1 "class" "a"),
   .edit (.attribute 2 "class" "a"), .finalize]

/-- Below the part, the box is found by its mark although the part itself has to match for it, and
    of the headings the inner one is found.  Going up from the paragraph, the box is the innermost
    match. -/
theorem queries_compose_nestedBoxes :
    (∃ found, nestedBoxes.queryAll 1 ("main .a" ++ "," ++ "h1") = .ok found ∧ found.Nodup ∧
      2 ∈ found ∧ 4 ∈ found ∧ 5 ∉ found) ∧
    nestedBoxes.query? 1 "main .a" = .ok (some 2) ∧
    nestedBoxes.closest? 3 "main .a" = .ok (some 2) ∧
    ∀ b, b = 3 ∨ nestedBoxes.tree.ElementAbove b 3 → nestedBoxes.isMatch b "main .a" = .ok true →
      b = 2 ∨ nestedBoxes.tree.ElementAbove b 2 := by
  have ht : nestedBoxes.tree.Reachable := Tree.reachable_ofSteps _
  have ha : nestedBoxes.tree.Acyclic := Tree.acyclic_of_parent?_lt (by decide +kernel)
  have hpart : nestedBoxes.tree.parent? 1 = some Tree.root := by decide +kernel
  have hbox : nestedBoxes.tree.Above 1 2 := .parent (by decide +kernel)
  have hinner : nestedBoxes.tree.Above 1 4 := .parent (by decide +kernel)
  have houter : ¬ nestedBoxes.tree.Above 1 5 :=
    Tree.not_above_of_siblings (ha Tree.root) hpart (by decide +kernel)
  have h₁ : Selector.parse "main .a" =
      .ok [[⟨none, [.tag "main"]⟩, ⟨some .descendant, [.className "a"]⟩]] := by decide +kernel
  have h₂ : Selector.parse "h1" = .ok [[⟨none, [.tag "h1"]⟩]] := by decide +kernel
  obtain ⟨-, ⟨found, -, hfound, -, -, hnd, hmem⟩, -, hfirst, hclosest⟩ :=
    queries_compose ht ha (Or.inr (.parent hpart)) h₁ h₂
  have hup : nestedBoxes.closest? 3 "main .a" = .ok (some 2) := by decide +kernel
  obtain ⟨answer, hanswer, -, hinnermost⟩ := hclosest 3 (by decide +kernel)
  obtain rfl : answer = some 2 := by
    rw [hup] at hanswer
    exact (Except.ok.inj hanswer).symm
  refine ⟨⟨found, hfound, hnd, (hmem 2).2 ⟨⟨hbox, ?_⟩, Or.inl ?_⟩,
    (hmem 4).2 ⟨⟨hinner, ?_⟩, Or.inr ?_⟩, fun h => houter ((hmem 5).1 h).1.1⟩, ?_, hup,
    ((hinnermost 2).1 rfl).2.2⟩
  · decide +kernel
  · decide +kernel
  · decide +kernel
  · decide +kernel
  · rw [hfirst]
    decide +kernel

end Document

end Pinpoint
