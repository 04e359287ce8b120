/-
  The token of a place among siblings.

  1. A text that is one condition is read as a compound by itself.
  2. The token is read as one condition on the place, and **the condition holds at one place only**
     (`exists_structural`): places are counted the same way when the token is written and when it
     is matched, and they fit the numbers of the matcher.
  3. In a tree in use every element below a parent has a place, and no two siblings share one.
-/
import Pinpoint.Proofs.Document.Links
import Pinpoint.Proofs.Selector.RoundTrip
import Pinpoint.Search.Token
import Pinpoint.Selector.Matching

namespace Pinpoint

/-! ## Reading the token

  A token of this kind is a condition alone, with no tag before it.  What the readers do with such a
  text is the same for every condition, and is said once. -/

namespace Reader

/-- A condition that is read to the end is a compound by itself. -/
theorem complex_condition {d : Char} {s : List Char} {k : Component} (hd : d ∈ conditionStarts)
    (hcond : condition? (d :: s) = some (.ok (k, []))) :
    complex (d :: s) = .ok ([⟨none, [k]⟩], []) := by
  have hblank : ∀ d ∈ conditionStarts, Ascii.isBlank d = false :=
    List.all_iff_forall_prop.1 (by decide)
  have hconds : conditions (d :: s) = .ok ([k], []) := by
    rw [conditions_of_some hcond, conditions_of_none rfl]; rfl
  have hcompound : compound (d :: s) = .ok ([k], []) :=
    bind_ok_iff.2 ⟨_, leading_condition hd s, bind_ok_iff.2 ⟨_, hconds, rfl⟩⟩
  have hskip : skipBlanks (d :: s) = d :: s := by
    rw [skipBlanks, List.dropWhile_cons, hblank d hd]; rfl
  rw [complex_eq, hskip, hcompound, ok_bind, laterParts_of_none rfl]; rfl

/-- A number in digits is an expression: this place and no other. -/
theorem nthArgument_toDigits {n : Nat} (hn : n < 2 ^ 31) :
    nthArgument (String.ofList (Nat.toDigits 10 n)) = .ok ⟨0, Int32.ofNat n⟩ := by
  rw [nthArgument, Nth.ofString?_toDigits hn]

/-- The pseudo-class with a number for its argument, as far as its closing bracket. -/
theorem pseudoClass_nthChild {n : Nat} (hn : n < 2 ^ 31) (rest : List Char) :
    pseudoClass ("nth-child".toList ++ '(' :: (Nat.toDigits 10 n ++ ')' :: rest)) =
      .ok (.nthChild ⟨0, Int32.ofNat n⟩, rest) := by
  have hparen : ')' ∉ Nat.toDigits 10 n := fun hc =>
    absurd (Ascii.mem_digits_of_mem_toDigits hc) (by decide)
  refine pseudoClass_of_word (by decide) (nameChars_stop (by decide) (by decide) _)
    (argument_closed hparen rest) ?_
  rw [pseudoClassOf, nthArgument_toDigits hn]; rfl

end Reader

/-- A text that is one condition reads as one compound with this condition.  The first character
    shows that the text is not blank. -/
theorem Selector.parse_condition {text : String} {d : Char} {s : List Char} {k : Component}
    (htext : text.toList = d :: s) (hd : d ∈ Reader.conditionStarts)
    (hcond : Reader.condition? (d :: s) = some (.ok (k, []))) :
    Selector.parse text = .ok [[⟨none, [k]⟩]] := by
  have hspace : ∀ d ∈ Reader.conditionStarts, Text.isSpace d = false :=
    List.all_iff_forall_prop.1 (by decide)
  refine Selector.parse_eq_singleton_iff.2 ⟨?_, ?_⟩
  · rw [Text.isBlankText, htext, List.all_cons, hspace d hd, Bool.false_and]
  · rw [htext]
    exact Reader.complex_condition hd hcond

/-- The token of a place with a number reads as the condition that names this place. -/
theorem Selector.parse_nthChild {n : Nat} (hn : n < 2 ^ 31) :
    Selector.parse (":nth-child(" ++ toString n ++ ")") =
      .ok [[⟨none, [.pseudo (.nthChild ⟨0, Int32.ofNat n⟩)]⟩]] := by
  have hchars : (":nth-child(" ++ toString n ++ ")").toList =
      ':' :: ("nth-child".toList ++ '(' :: (Nat.toDigits 10 n ++ [')'])) := by
    have hdigits : (toString n).toList = Nat.toDigits 10 n := by
      rw [Nat.toString_eq_ofList_toDigits, String.toList_ofList]
    rw [String.toList_append, String.toList_append, hdigits, List.append_assoc]
    rfl
  refine Selector.parse_condition hchars (by decide) ?_
  rw [Reader.condition?, Reader.pseudoClass_nthChild hn []]
  rfl

/-! ## Matching the token

  The matcher works with 32-bit numbers.  A place that is less than `2 ^ 31` is the same number
  there, so the comparisons below are those of natural numbers. -/

/-- The matcher counts places from one. -/
theorem siblingPosition_of_elementPosition? {t : Tree} {j : NodeId} {k n : Nat}
    (h : t.elementPosition? j = some (k, n)) : t.siblingPosition j = (k + 1, n) := by
  rw [Tree.siblingPosition, h]

/-- **The token of a place holds at this place among as many siblings, and at no other.**

    Three tokens are possible.  The first and the last place have names of their own, the last one
    only where there are two siblings at least.  Every other place is named by its number, counted
    from one. -/
theorem exists_structural {i n : Nat} (hi : i < n) (hn : n < 2 ^ 31) :
    ∃ p : PseudoClass, Selector.parse (nthChildToken i n) = .ok [[⟨none, [.pseudo p]⟩]] ∧
      ∀ (t : Tree) (j : NodeId) (k : Nat), t.elementPosition? j = some (k, n) → k < n →
        (p.matchesAt t j = true ↔ k = i) := by
  unfold nthChildToken
  by_cases hfirst : i = 0
  · rw [if_pos hfirst]
    refine ⟨.firstChild, by decide +kernel, fun t j k hj hk => ?_⟩
    simp only [PseudoClass.matchesAt, siblingPosition_of_elementPosition? hj, beq_iff_eq]
    omega
  · rw [if_neg hfirst]
    by_cases hlast : i + 1 = n
    · rw [if_pos hlast]
      refine ⟨.lastChild, by decide +kernel, fun t j k hj hk => ?_⟩
      simp only [PseudoClass.matchesAt, siblingPosition_of_elementPosition? hj, beq_iff_eq]
      omega
    · rw [if_neg hlast]
      -- the number fits 32 bits, so it is compared with the place as it is
      refine ⟨_, Selector.parse_nthChild (by omega), fun t j k hj hk => ?_⟩
      have hzero : (0 : Int32).toInt = 0 := by decide
      have hpos : (Int32.ofNat (k + 1)).toInt = (k + 1 : Nat) :=
        Int32.toInt_ofNat_of_lt (by omega)
      have hplace : (Int32.ofNat (i + 1)).toInt = (i + 1 : Nat) :=
        Int32.toInt_ofNat_of_lt (by omega)
      simp only [PseudoClass.matchesAt, siblingPosition_of_elementPosition? hj, Nth.picks, hzero,
        if_true, hpos, hplace, decide_eq_true_eq]
      omega

/-! ## Places in a tree in use

  Places are indices in the list of element children, and this list has no repetitions. -/

namespace Tree.Reachable

variable {t : Tree} {p c : NodeId}

/-- An item of a list has an index there. -/
theorem idxOf?_of_mem {l : List NodeId} (hc : c ∈ l) :
    ∃ k, l.idxOf? c = some k ∧ l[k]? = some c := by
  cases hk : l.idxOf? c with
  | none => exact absurd hc (List.idxOf?_eq_none_iff.1 hk)
  | some k =>
    obtain ⟨hlt, heq, -⟩ := List.idxOf?_eq_some_iff.1 hk
    exact ⟨k, rfl, by rw [List.getElem?_eq_getElem hlt, heq]⟩

/-- **An element below a parent stands in its place among the element children.**  The index is the
    place of the list, and the count is the length of it, as the token writes them. -/
theorem elementPosition?_eq (ht : t.Reachable) (hc : c ∈ t.elementChildren p) :
    ∃ k, (t.elementChildren p)[k]? = some c ∧
      t.elementPosition? c = some (k, (t.elementChildren p).length) := by
  obtain ⟨k, hk, hget⟩ := idxOf?_of_mem hc
  have hp := (ht.mem_elementChildren_iff.1 hc).1
  refine ⟨k, hget, ?_⟩
  rw [elementPosition?, hp]
  show ((t.elementChildren p).idxOf? c).bind _ = _
  rw [hk]; rfl

/-- No more elements are below a node than the tree has nodes, so a place fits into a number of the
    matcher where the tree does. -/
theorem length_elementChildren_le (ht : t.Reachable) (p : NodeId) :
    (t.elementChildren p).length ≤ t.size :=
  length_le_of_nodup (ht.nodup_elementChildren p) fun _ hc =>
    (ht.lt_size_of_parent? (ht.mem_elementChildren_iff.1 hc).1).2

end Tree.Reachable

end Pinpoint
