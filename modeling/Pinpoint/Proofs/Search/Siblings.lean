/-
  Places among siblings, counted from both ends.

  A place is written down when a token is made and read off again when the token is matched.  Both
  times it is a matter of counting the elements before and after an element, whatever text and
  comments stand between them.

  1. The elements before and after an element (`elementsBefore`, `elementsAfter`), and its places
     from the start and from the end.  Siblings are what stands before it, the element, and what
     stands after it, so **its position is a matter of these two numbers** (`siblingPosition_eq`).
  2. **What the conditions on places say in these numbers** (`matchesAt_iff_counted`), for every
     expression `An+B`.  The place from the end is a difference that stays above zero.
  3. The position that a search asks for is the one that the tree gives, and **its token is read and
     finds the element alone** (`nthChildToken_singles_out`).
-/
import Pinpoint.Proofs.Search.Completeness
import Pinpoint.Proofs.Selector.Expression

namespace Pinpoint

/-! ## Before and after

  Children are listed with text and comments among them.  Splitting the list at an element, and then
  leaving out what is no element, leaves the elements before it and after it. -/

namespace Tree

variable {t : Tree} {i p : NodeId}

/-- The elements among the siblings before a node; a node that hangs nowhere has no siblings. -/
def elementsBefore (t : Tree) (i : NodeId) : List NodeId :=
  match t.parent? i with
  | none => []
  | some p => ((t.children p).takeWhile (· ≠ i)).filter t.isElement

/-- The elements among the siblings after a node. -/
def elementsAfter (t : Tree) (i : NodeId) : List NodeId :=
  match t.parent? i with
  | none => []
  | some p => ((t.children p).dropWhile (· ≠ i)).tail.filter t.isElement

/-- The place of a node, one for the first element among its siblings. -/
def placeFromStart (t : Tree) (i : NodeId) : Nat := (t.elementsBefore i).length + 1

/-- The place of a node, one for the last element among its siblings. -/
def placeFromEnd (t : Tree) (i : NodeId) : Nat := (t.elementsAfter i).length + 1

/-- A node that hangs nowhere is the first and the last, as it has no siblings. -/
theorem places_of_parent?_none (hp : t.parent? i = none) :
    t.placeFromStart i = 1 ∧ t.placeFromEnd i = 1 := by
  rw [placeFromStart, placeFromEnd, elementsBefore, elementsAfter, hp]
  exact ⟨rfl, rfl⟩

namespace Reachable

/-- **The element children of a parent are the elements before a child, the child, and the elements
    after it.** -/
theorem elementChildren_eq (ht : t.Reachable) (hel : t.isElement i = true)
    (hp : t.parent? i = some p) :
    t.elementChildren p = t.elementsBefore i ++ i :: t.elementsAfter i := by
  have hsplit := eq_append_of_mem (ht.mem_children_iff.2 hp)
  have hfilter := congrArg (List.filter t.isElement) hsplit
  rw [List.filter_append, List.filter_cons_of_pos hel] at hfilter
  rw [elementsBefore, elementsAfter, hp]
  exact hfilter

/-- So an element stands behind as many of its siblings as there are elements before it. -/
theorem getElem?_elementChildren (ht : t.Reachable) (hel : t.isElement i = true)
    (hp : t.parent? i = some p) :
    (t.elementChildren p)[(t.elementsBefore i).length]? = some i := by
  rw [ht.elementChildren_eq hel hp]
  simp

/-- And there are as many siblings as there are before it and after it, and itself. -/
theorem length_elementChildren (ht : t.Reachable) (hel : t.isElement i = true)
    (hp : t.parent? i = some p) :
    (t.elementChildren p).length = (t.elementsBefore i).length + 1 + (t.elementsAfter i).length := by
  rw [ht.elementChildren_eq hel hp, List.length_append, List.length_cons]
  omega

/-- The number of elements before an element is its position in the tree.  The tree looks the
    element up in the list of its siblings; as it stands there only once, this leads to the same
    place. -/
theorem elementPosition?_eq_length (ht : t.Reachable) (hel : t.isElement i = true)
    (hp : t.parent? i = some p) :
    t.elementPosition? i = some ((t.elementsBefore i).length, (t.elementChildren p).length) := by
  obtain ⟨k, hk, hposition⟩ := ht.elementPosition?_eq (ht.mem_elementChildren_iff.2 ⟨hp, hel⟩)
  have hbefore := ht.getElem?_elementChildren hel hp
  obtain ⟨hlt, -⟩ := List.getElem?_eq_some_iff.1 hk
  -- no element stands among its siblings twice
  have hsame : k = (t.elementsBefore i).length :=
    (List.getElem?_inj hlt (ht.nodup_elementChildren p)).1 (hk.trans hbefore.symm)
  rw [hposition, hsame]

/-- **The position that is matched, in the numbers of elements before and after.**  It is the place
    and the number of siblings; for an element that hangs nowhere both are one. -/
theorem siblingPosition_eq (ht : t.Reachable) (hel : t.isElement i = true) :
    t.siblingPosition i = (t.placeFromStart i, t.placeFromStart i + t.placeFromEnd i - 1) := by
  cases hp : t.parent? i with
  | none =>
    obtain ⟨hstart, hend⟩ := places_of_parent?_none hp
    rw [siblingPosition, elementPosition?, hp, hstart, hend]
    rfl
  | some p =>
    have hcount : (t.elementChildren p).length = t.placeFromStart i + t.placeFromEnd i - 1 := by
      rw [ht.length_elementChildren hel hp, placeFromStart, placeFromEnd]
      omega
    rw [siblingPosition_of_elementPosition? (ht.elementPosition?_eq_length hel hp), hcount]
    rfl

/-- There are no more elements around an element than nodes in the tree. -/
theorem places_le_size (ht : t.Reachable) (hel : t.isElement i = true) :
    t.placeFromStart i + t.placeFromEnd i - 1 ≤ t.size := by
  cases hp : t.parent? i with
  | none =>
    obtain ⟨hstart, hend⟩ := places_of_parent?_none hp
    obtain ⟨e, he⟩ := Option.isSome_iff_exists.1 hel
    have hpos : 0 < t.size := Nat.zero_lt_of_lt (lt_size_of_element? he)
    omega
  | some p =>
    have hlen := ht.length_elementChildren hel hp
    have hle := ht.length_elementChildren_le p
    rw [placeFromStart, placeFromEnd]
    omega

end Reachable

end Tree

/-- Three items with text and a comment between them. -/
def Document.mixedItems : Document := Document.ofSteps
  [.edit (.element "ul"), .edit (.append 0 1), .edit (.element "li"), .edit (.append 1 2),
   .edit (.text "a"), .edit (.append 1 3), .edit (.element "li"), .edit (.append 1 4),
   .edit (.comment "b"), .edit (.append 1 5), .edit (.element "li"), .edit (.append 1 6)]

/-! ## Conditions on places

  Each of the five conditions looks at the position alone. -/

namespace PseudoClass

open Document (mixedItems)

variable {t : Tree} {i : NodeId}

/-- A place that fits 32 bits is picked as the number that it is.  The numbers `A` and `B` of the
    expression are any of 32 bits; their multiples are compared as integers, so nothing wraps
    around. -/
theorem picks_place {n : Nat} (hn : n < 2 ^ 31) (a b : Int32) :
    (⟨a, b⟩ : Nth).picks (Int32.ofNat n) = true ↔ ∃ k : Nat, a.toInt * k + b.toInt = n := by
  rw [Nth.picks_iff, Int32.toInt_ofNat_of_lt hn]

/-- **The conditions on places count the elements around an element.**  A first child has no element
    before it, a last one none after it, and an only child neither; an element that hangs nowhere is
    all of these.  An expression `An+B` picks the place from the start, or from the end, exactly when
    this place is `A·k + B` for some `k ≥ 0`.  The place from the end is the number of the element
    siblings less the place from the start, and one more, and never less than one. -/
theorem matchesAt_iff_counted (ht : t.Reachable) (hsize : t.size < 2 ^ 31)
    (hel : t.isElement i = true) :
    (firstChild.matchesAt t i = true ↔ t.placeFromStart i = 1) ∧
    (lastChild.matchesAt t i = true ↔ t.placeFromEnd i = 1) ∧
    (onlyChild.matchesAt t i = true ↔ t.placeFromStart i = 1 ∧ t.placeFromEnd i = 1) ∧
    (∀ a b : Int32, (nthChild ⟨a, b⟩).matchesAt t i = true ↔
      ∃ k : Nat, a.toInt * k + b.toInt = t.placeFromStart i) ∧
    (∀ a b : Int32, (nthLastChild ⟨a, b⟩).matchesAt t i = true ↔
      ∃ k : Nat, a.toInt * k + b.toInt = t.placeFromEnd i) ∧
    (t.parent? i = none → t.placeFromStart i = 1 ∧ t.placeFromEnd i = 1) ∧
    (t.siblingPosition i).1 ≤ (t.siblingPosition i).2 := by
  have hplace := ht.siblingPosition_eq hel
  have hle := ht.places_le_size hel
  have hstart : 1 ≤ t.placeFromStart i := Nat.le_add_left 1 _
  have hend : 1 ≤ t.placeFromEnd i := Nat.le_add_left 1 _
  refine ⟨?_, ?_, ?_, ?_, ?_, Tree.places_of_parent?_none, ?_⟩
  · rw [matchesAt, hplace, beq_iff_eq]
  · rw [matchesAt, hplace, beq_iff_eq]
    omega
  · rw [matchesAt, hplace, beq_iff_eq]
    omega
  · intro a b
    rw [matchesAt, hplace]
    exact picks_place (by omega) a b
  · intro a b
    -- the difference that the program takes, and one, is the place from the end
    have hback : t.placeFromStart i + t.placeFromEnd i - 1 - t.placeFromStart i + 1 =
        t.placeFromEnd i := by
      omega
    rw [matchesAt, hplace]
    dsimp only
    rw [hback]
    exact picks_place (by omega) a b
  · rw [hplace]
    dsimp only
    omega

/-- The item in the middle is picked by every second place, and by an expression that starts at the
    lowest number of 32 bits; an expression that goes down from the first place does not pick it. -/
theorem matchesAt_iff_counted_mixedItems :
    mixedItems.tree.placeFromStart 4 = 2 ∧ mixedItems.tree.placeFromEnd 4 = 2 ∧
    firstChild.matchesAt mixedItems.tree 4 = false ∧
    (nthChild ⟨2, 0⟩).matchesAt mixedItems.tree 4 = true ∧
    (nthChild ⟨1, Int32.minValue⟩).matchesAt mixedItems.tree 4 = true ∧
    (nthLastChild ⟨-1, 1⟩).matchesAt mixedItems.tree 4 = false := by
  have hstart : mixedItems.tree.placeFromStart 4 = 2 := by decide +kernel
  have hend : mixedItems.tree.placeFromEnd 4 = 2 := by decide +kernel
  have ht : mixedItems.tree.Reachable := Tree.reachable_ofSteps _
  obtain ⟨hfirst, -, -, hnth, hlast, -, -⟩ :=
    matchesAt_iff_counted (i := 4) ht (by decide +kernel) (by decide +kernel)
  rw [hstart] at hfirst hnth
  rw [hend] at hlast
  refine ⟨hstart, hend, ?_, (hnth 2 0).2 ⟨1, by decide⟩,
    (hnth 1 Int32.minValue).2 ⟨2147483650, by decide⟩, ?_⟩
  · rw [Bool.eq_false_iff, ne_eq, hfirst]
    decide
  · rw [Bool.eq_false_iff, ne_eq, hlast]
    rintro ⟨k, hk⟩
    have hneg : (-1 : Int32).toInt = -1 := by decide
    have hone : (1 : Int32).toInt = 1 := by decide
    rw [hneg, hone] at hk
    omega

end PseudoClass

/-! ## The token of a place

  The token says the place in the shortest way: first, last, or its number.  Read again, it is a
  condition on places, and this picks one of the siblings. -/

namespace Document

variable {d : Document} {e p : NodeId}

/-- Below an element, counting among the children that a host gives is counting in the tree. -/
theorem positionAmong_eq_elementPosition? (hp : d.tree.parentElement? e = some p) :
    positionAmong d.host.parent d.host.children e = d.tree.elementPosition? e := by
  have hparent : d.host.parent e = some p := hp
  rw [positionAmong, hparent, Tree.elementPosition?, (Tree.parent?_of_parentElement? hp).1]
  rfl

/-- **The token of a place singles its element out.**  An element below another one has the position
    that the numbers of elements before and after it give, in the tree and for a search alike.  The
    token of this position is a selector, and among the siblings it finds this element alone. -/
theorem nthChildToken_singles_out (ht : d.tree.Reachable) (hsize : d.tree.size < 2 ^ 31)
    (hel : d.tree.isElement e = true) (hp : d.tree.parentElement? e = some p) :
    ∃ i n, i = (d.tree.elementsBefore e).length ∧ n = i + 1 + (d.tree.elementsAfter e).length ∧
      positionAmong d.host.parent d.host.children e = some (i, n) ∧
      d.tree.elementPosition? e = some (i, n) ∧ i < n ∧
      (∃ x, Selector.parse (nthChildToken i n) = .ok x) ∧
      d.host.isUniqueAmongSiblings e (nthChildToken i n) = true := by
  have hparent := (Tree.parent?_of_parentElement? hp).1
  have hposition := ht.elementPosition?_eq_length hel hparent
  have hlen := ht.length_elementChildren hel hparent
  have hle := ht.length_elementChildren_le p
  have hlt : (d.tree.elementsBefore e).length < (d.tree.elementChildren p).length := by omega
  obtain ⟨c, hparse, -⟩ := exists_structural hlt (by omega)
  exact ⟨_, _, rfl, hlen, (positionAmong_eq_elementPosition? hp).trans hposition, hposition, hlt,
    ⟨_, hparse⟩,
    isUniqueAmongSiblings_nthChildToken ht hsize hp (ht.getElem?_elementChildren hel hparent)⟩

/-- The item in the middle goes by its number. -/
theorem nthChildToken_singles_out_mixedItems :
    mixedItems.tree.parentElement? 4 = some 1 ∧ mixedItems.host.position 4 = some (1, 3) ∧
    nthChildToken 1 3 = ":nth-child(2)" ∧
    mixedItems.host.isUniqueAmongSiblings 4 ":nth-child(2)" = true := by
  have ht : mixedItems.tree.Reachable := Tree.reachable_ofSteps _
  have hp : mixedItems.tree.parentElement? 4 = some 1 := by decide +kernel
  have hbefore : (mixedItems.tree.elementsBefore 4).length = 1 := by decide +kernel
  have hafter : (mixedItems.tree.elementsAfter 4).length = 1 := by decide +kernel
  have htoken : nthChildToken 1 3 = ":nth-child(2)" := by decide +kernel
  obtain ⟨i, n, hi, hn, hposition, -, -, -, hunique⟩ :=
    nthChildToken_singles_out ht (by decide +kernel) (by decide +kernel) hp
  obtain rfl : i = 1 := hi.trans hbefore
  obtain rfl : n = 3 := by
    rw [hn, hafter]
  rw [htoken] at hunique
  exact ⟨hp, hposition, htoken, hunique⟩

end Document

end Pinpoint
