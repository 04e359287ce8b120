/-
  The place among the siblings, where nothing else can be said.

  An element whose id and classes may not be used has its tag and its place left.  A sibling with the
  same tag rules out the tag alone.

  1. The token of a place, read off the list of siblings (`structuralToken`).
  2. **A candidate of such an element is its tag alone, or it ends with the token.**  The tag alone
     finds the sibling, too.
  3. An answer ends with a segment of its element, so **it ends with the token**
     (`exists_answer_eq_append_structuralToken`).
-/
import Pinpoint.Proofs.Search.Completeness
import Pinpoint.Proofs.Search.Lineage

namespace Pinpoint

/-! ## The token of a place

  A search makes the token from an index and a count.  Here it is read off the siblings
  themselves. -/

/-- What tells the place of one of some siblings: that it is the first, or else the last, or else its
    number, counted from one. -/
def structuralToken (siblings : List NodeId) (e : NodeId) : String :=
  if siblings.head? = some e then ":first-child"
  else if siblings.getLast? = some e then ":last-child"
  else ":nth-child(" ++ toString (siblings.idxOf e + 1) ++ ")"

example : [4, 7, 5].map (structuralToken [4, 7, 5]) =
    [":first-child", ":nth-child(2)", ":last-child"] ∧ structuralToken [4] 4 = ":first-child" := by
  decide +kernel

/-- Siblings are counted as the token of an element asks for: where nothing is listed twice, the
    first, the last and the number of an item are all a matter of its index. -/
theorem structuralToken_eq {siblings : List NodeId} {e : NodeId} {k : Nat} (hnd : siblings.Nodup)
    (hk : siblings[k]? = some e) : structuralToken siblings e = nthChildToken k siblings.length := by
  obtain ⟨hlt, hget⟩ := List.getElem?_eq_some_iff.1 hk
  have hsame : ∀ j < siblings.length, siblings[j]? = some e ↔ j = k := by
    intro j hj
    rw [← hk]
    exact List.getElem?_inj hj hnd
  have hfirst : siblings.head? = some e ↔ k = 0 := by
    rw [List.head?_eq_getElem?, hsame 0 (by omega), eq_comm]
  have hlast : siblings.getLast? = some e ↔ k + 1 = siblings.length := by
    rw [List.getLast?_eq_getElem?, hsame _ (by omega)]
    omega
  have hidx : siblings.idxOf e = k := by
    rw [← hget]
    exact hnd.idxOf_getElem k hlt
  unfold structuralToken nthChildToken
  simp only [hfirst, hlast, hidx]

/-! ## Candidates

  Of the five groups that a candidate may draw on, three are empty, and the tag and the place are
  left. -/

/-- Without an id, classes and attributes, a candidate is a tag alone or ends with a place.  The
    place is the last thing that a candidate says, so whatever it says with it stands in front. -/
theorem Tokens.cases_of_mem_candidates {t : Tokens} {o : Options} {kinds : List Kind} {s : String}
    (hid : t.id = none) (hclasses : t.classes = []) (hattributes : t.attributes = [])
    (hs : s ∈ t.candidates o kinds) :
    s = "" ∨ s = t.tag ∨ ∃ token, t.nthChild = some token ∧ ∃ front, s = front ++ token := by
  obtain ⟨chosen, hchosen, rfl⟩ := exists_options_of_mem_candidates hs
  have hnone : joinedCombinations [] 1 o.maxCombination = [] := by
    simp [joinedCombinations, combinations]
  -- one choice for each of the five groups, three of which have nothing to choose
  simp only [allGroups, hid, hclasses, hattributes, hnone, Option.toList_none,
    List.forall₂_cons_left_iff, List.forall₂_nil_left_iff] at hchosen
  obtain ⟨tag, _, htag, ⟨id, _, hid, ⟨className, _, hclass, ⟨attr, _, hattr,
    ⟨place, _, hplace, rfl, rfl⟩, rfl⟩, rfl⟩, rfl⟩, rfl⟩ := hchosen
  have hempty : ∀ {k : Kind} {x : Option String},
      (∀ b, x = some b → k ∈ kinds ∧ b ∈ ([] : List String)) → x = none := by
    intro k x hx
    cases x with
    | none => rfl
    | some b => exact absurd (hx b rfl).2 List.not_mem_nil
  rw [hempty hid, hempty hclass, hempty hattr]
  cases place with
  | some token =>
    refine Or.inr (Or.inr ⟨token, Option.mem_toList.1 (hplace token rfl).2,
      String.join tag.toList, ?_⟩)
    simp [String.join_append]
  | none =>
    cases tag with
    | none => exact Or.inl rfl
    | some w =>
      have hw := (htag w rfl).2
      split at hw
      · cases hw
      · rw [List.mem_singleton] at hw
        subst hw
        refine Or.inr (Or.inl ?_)
        simp

namespace Document

variable {d : Document} {o : Options} {e i p : NodeId} {s : Segment} {kinds : List Kind}

/-- An element whose sibling has the same tag is not found by its tag alone. -/
theorem not_isUniqueAmongSiblings_tag (hplain : d.host.hasPlainNames e = true)
    (hp : d.tree.parentElement? e = some p) (hi : i ∈ d.tree.elementChildren p) (hne : i ≠ e)
    (hsame : d.tree.tagName? i = d.tree.tagName? e) {k : Compound}
    (hparse : Selector.parse (Ascii.lower (d.host.tagName e)) = .ok [[⟨none, k⟩]])
    (hk : Compound.matchesAt d.tree e k = true) :
    d.host.isUniqueAmongSiblings e (Ascii.lower (d.host.tagName e)) = false := by
  rw [Bool.eq_false_iff]
  intro hunique
  have hname : isPlainName (Ascii.lower (d.host.tagName e)) = true :=
    isPlainName_lower (Host.hasPlainNames_iff.1 hplain).1
  obtain rfl := Selector.parse_of_names (List.all_eq_true.1 hname) hparse
  obtain ⟨-, hq⟩ := Host.isUniqueAmongSiblings_iff.1 hunique
  obtain ⟨x, hx, hfilter⟩ := filterMatching_eq_ok_iff.1 hq
  rw [hparse] at hx
  cases hx
  have hparent : d.host.parent e = some p := hp
  rw [hparent] at hfilter
  -- what the tag asks for holds at the sibling, too
  have hmatch : Selector.matchesAt d.tree i
      [[⟨none, [.tag (Ascii.lower (Ascii.lower (d.host.tagName e)))]⟩]] = true := by
    rw [matchesAt_singleton, matchesAt_tag_iff, hsame, ← matchesAt_tag_iff]
    exact hk
  have hmem : i ∈ [e] := by
    rw [hfilter]
    exact List.mem_filter.2 ⟨hi, hmatch⟩
  exact hne (List.mem_singleton.1 hmem)

/-- **The segment of such an element ends with its place.**  A segment is a candidate that finds the
    element among its siblings, and the only candidate without a place is the tag, which finds the
    sibling of the same tag as well. -/
theorem exists_segment_eq_append_structuralToken (ht : d.tree.Reachable)
    (hplain : d.host.hasPlainNames e = true) (ho : o.attributes = []) (hkinds : kinds ∈ o.levels)
    (hel : d.tree.isElement e = true) (hp : d.tree.parentElement? e = some p)
    (hid : ∀ v, d.host.id e = some v → v = "" ∨ o.isExcluded v = true)
    (hclasses : ∀ v ∈ d.host.classes e, v = "" ∨ o.isExcluded v = true)
    (hi : i ∈ d.tree.elementChildren p) (hne : i ≠ e)
    (hsame : d.tree.tagName? i = d.tree.tagName? e)
    (hs : d.host.levelSegment? o kinds e = some s) :
    ∃ front, s = front ++ structuralToken (d.tree.elementChildren p) e := by
  have hunusable : ∀ v, v = "" ∨ o.isExcluded v = true → o.isUsable v = false := by
    rintro v (rfl | hv)
    · rfl
    · rw [Options.isUsable, hv, Bool.not_true, Bool.and_false]
  have hidToken : (d.host.tokens o e).id = none := by
    rw [Host.tokens]
    cases hv : d.host.id e with
    | none => rfl
    | some v => rw [Option.filter_some, hunusable v (hid v hv)]; rfl
  have hclassTokens : (d.host.tokens o e).classes = [] := by
    have hnone : (d.host.classes e).filter o.isUsable = [] := by
      rw [List.filter_eq_nil_iff]
      intro v hv
      rw [hunusable v (hclasses v hv)]
      decide
    rw [Host.tokens, hnone]
    rfl
  have hattributeTokens : (d.host.tokens o e).attributes = [] := by
    rw [Host.tokens, ho]
    rfl
  have hmem := List.mem_of_find?_eq_some hs
  rcases Tokens.cases_of_mem_candidates hidToken hclassTokens hattributeTokens hmem with
    hempty | rfl | ⟨token, htoken, hfront⟩
  · exact absurd hempty (Host.ne_empty_of_mem_candidates hmem)
  · obtain ⟨k, hparse, hk⟩ := holdsAt_of_names hplain ho hkinds hs
    have hunique : d.host.isUniqueAmongSiblings e (Ascii.lower (d.host.tagName e)) = true :=
      List.find?_some hs
    rw [not_isUniqueAmongSiblings_tag hplain hp hi hne hsame hparse hk] at hunique
    cases hunique
  · obtain ⟨k, hk, hplace⟩ := nthChild_tokens (o := o) ht hel hp
    rw [htoken, Option.some_inj] at hplace
    rw [structuralToken_eq (ht.nodup_elementChildren p) hk, ← hplace]
    exact hfront

/-! ## Answers

  An answer ends with the segment of its element: pruning takes out segments above it, never this
  one. -/

/-- **The place has the last word.**  Without attributes in use and with plain names, an answer for
    an element that hangs from another one, whose id and classes are empty or left out, and that has
    a sibling with the same tag, ends with the token of its place, whatever the options are. -/
theorem exists_answer_eq_append_structuralToken (ht : d.tree.Reachable) (ha : d.tree.Acyclic)
    (hplain : ∀ a ∈ d.elements, d.host.hasPlainNames a = true) (ho : o.attributes = [])
    (hp : d.tree.parentElement? e = some p)
    (hid : ∀ v, d.host.id e = some v → v = "" ∨ o.isExcluded v = true)
    (hclasses : ∀ v ∈ d.host.classes e, v = "" ∨ o.isExcluded v = true)
    (hsame : ∃ i ∈ d.tree.elementChildren p, i ≠ e ∧ d.tree.tagName? i = d.tree.tagName? e)
    {answer : String} (hanswer : d.host.shortestSelector? o e = some answer) :
    ∃ front, answer = front ++ structuralToken (d.tree.elementChildren p) e := by
  have hquery := Host.query_of_shortestSelector? hanswer
  have he : e ∈ d.elements := mem_elements_of_isUnique (Host.isUnique_iff.2 hquery)
  have hel := ((ht.mem_descendants_iff (ha Tree.root)).1 he).2
  obtain ⟨i, hi, hne, hsame⟩ := hsame
  obtain ⟨kinds, hkinds, s, hs, front, rfl⟩ :=
    exists_segment_of_shortestSelector? ht ha hplain ho hanswer
  obtain ⟨front', rfl⟩ := exists_segment_eq_append_structuralToken ht (hplain e he) ho hkinds hel hp
    hid hclasses hi hne hsame hs
  exact ⟨front ++ front', by rw [String.append_assoc]⟩

/-- A menu of three items, the middle one with an empty id; all have the same class. -/
def menu : Document := Document.ofSteps
  [.edit (.element "html"), .edit (.append 0 1), .edit (.element "ul"), .edit (.append 1 2),
   .edit (.attribute 2 "id" "menu"), .edit (.element "li"), .edit (.append 2 3),
   .edit (.element "li"), .edit (.append 2 4), .edit (.element "li"), .edit (.append 2 5),
   .edit (.attribute 3 "class" "item"), .edit (.attribute 4 "class" "item"),
   .edit (.attribute 5 "class" "item"), .edit (.attribute 4 "id" ""), .finalize]

/-- No attributes, and the class of the items left out. -/
def menuOptions : Options :=
  (Settings.options ⟨some [.id, .className, .tag, .nthChild], none, some "^item$", none⟩).toOption.getD
    .standard

/-- The first three levels have nothing for an item; the last one has its place. -/
theorem exists_answer_eq_append_structuralToken_menu :
    menu.tree.elementChildren 2 = [3, 4, 5] ∧
    menu.host.shortestSelector? menuOptions 4 = some "li:nth-child(2)" ∧
    structuralToken [3, 4, 5] 4 = ":nth-child(2)" ∧
    ∃ front, "li:nth-child(2)" = front ++ structuralToken [3, 4, 5] 4 := by
  have hitems : menu.tree.elementChildren 2 = [3, 4, 5] := by decide +kernel
  have hanswer : menu.host.shortestSelector? menuOptions 4 = some "li:nth-child(2)" := by
    decide +kernel
  have ht : menu.tree.Reachable := Tree.reachable_ofSteps _
  have ha : menu.tree.Acyclic := Tree.acyclic_of_parent?_lt (by decide +kernel)
  have hid : menu.host.id 4 = some "" := by decide +kernel
  have hends := exists_answer_eq_append_structuralToken (p := 2) ht ha (by decide +kernel)
    (by decide +kernel) (by decide +kernel)
    (fun v hv => Or.inl (Option.some.inj (hv.symm.trans hid))) (by decide +kernel)
    ⟨3, by decide +kernel, by decide, by decide +kernel⟩ hanswer
  rw [hitems] at hends
  exact ⟨hitems, hanswer, by decide +kernel, hends⟩

end Document

end Pinpoint
