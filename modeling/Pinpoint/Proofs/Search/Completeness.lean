/-
  Tags and places among siblings are enough.

  In a document with one element at the top, whose tag no other element has, every attached element
  gets a selector when the search may use tags and places among siblings, and no others.

  1. The candidates are texts of name characters and structural tokens, so each of them is one
     compound, if it is a selector at all (`isJoint_of_mem_candidates`).
  2. Below a parent element, the structural token tells an element from its siblings, so there is a
     segment; whichever candidate it is, it singles the element out.
  3. At the top, the tag is the only candidate, and it singles the element out.
  4. Where the last level of a search has such a segment for every attached element, the line of
     the segments finds the element at its end alone (`isSome_of_segments`), and so the search
     succeeds for all of them.
-/
import Pinpoint.Proofs.Search.Anchoring
import Pinpoint.Proofs.Search.Candidate
import Pinpoint.Proofs.Search.Single
import Pinpoint.Proofs.Search.Structural

namespace Pinpoint

/-! ## Levels

  A search tries its first kind, then the first two, and so on.  What is to be found at all is found
  on the last level at the latest. -/

/-- The last level of a search uses all kinds. -/
theorem Options.kinds_mem_levels {o : Options} (h : o.kinds ≠ []) : o.kinds ∈ o.levels := by
  have hpos : 0 < o.kinds.length := List.length_pos_iff.2 h
  rw [levels, List.mem_map]
  refine ⟨o.kinds.length - 1, List.mem_range.2 (by omega), ?_⟩
  rw [Nat.sub_add_cancel hpos, List.take_length]

/-- If the last level has a chain and this finds the element, the search succeeds, on this level or
    an earlier one. -/
theorem Host.uniqueChain?_isSome {E ε : Type} [DecidableEq E] {h : Host E ε} {o : Options} {e : E}
    {c : Chain} (hkinds : o.kinds ≠ [])
    (hc : h.chainAt? o (h.tokenLineage o e) o.kinds = some c) (hu : h.isUnique e c.render = true) :
    (h.uniqueChain? o e).isSome = true := by
  rw [uniqueChain?, List.findSome?_isSome_iff]
  refine ⟨o.kinds, o.kinds_mem_levels hkinds, ?_⟩
  rw [resolvingChain?, hc, Option.filter_some, if_pos hu]; rfl

/-! ## Texts

  Tags and places have no characters that join compounds. -/

/-- The token of a place has no character that joins compounds. -/
theorem isJoint_of_mem_nthChildToken (i n : Nat) :
    ∀ c ∈ (nthChildToken i n).toList, Reader.isJoint c = false := by
  unfold nthChildToken
  split
  · exact List.all_iff_forall_prop.1 (by decide)
  · split
    · exact List.all_iff_forall_prop.1 (by decide)
    · intro c hc
      have hfront : ∀ c ∈ ":nth-child(".toList, Reader.isJoint c = false :=
        List.all_iff_forall_prop.1 (by decide)
      have hdigits : ∀ c ∈ Ascii.digits, Reader.isJoint c = false :=
        List.all_iff_forall_prop.1 (by decide)
      have hback : ∀ c ∈ ")".toList, Reader.isJoint c = false :=
        List.all_iff_forall_prop.1 (by decide)
      rw [String.toList_append, String.toList_append, List.mem_append, List.mem_append] at hc
      rcases hc with (hc | hc) | hc
      · exact hfront c hc
      · rw [Nat.toString_eq_ofList_toDigits, String.toList_ofList] at hc
        exact hdigits c (Ascii.mem_digits_of_mem_toDigits hc)
      · exact hback c hc

namespace Tokens

variable {t : Tokens} {o : Options} {kinds : List Kind} {s : String}

/-- Candidates made of a tag and a structural token join nothing, if neither of the two does. -/
theorem isJoint_of_mem_candidates (hkinds : ∀ k ∈ kinds, k = .tag ∨ k = .nthChild)
    (htag : ∀ c ∈ t.tag.toList, Reader.isJoint c = false)
    (hplace : ∀ token, t.nthChild = some token → ∀ c ∈ token.toList, Reader.isJoint c = false)
    (hs : s ∈ t.candidates o kinds) : ∀ c ∈ s.toList, Reader.isJoint c = false := by
  refine candidates_induction (P := fun s => ∀ c ∈ s.toList, Reader.isJoint c = false)
    (fun a b ha hb c hc => ?_) (fun g hg hkind s hs => ?_) hs
  · rw [String.toList_append, List.mem_append] at hc
    exact hc.elim (ha c) (hb c)
  · simp only [allGroups, List.mem_cons, List.not_mem_nil, or_false] at hg
    rcases hg with rfl | rfl | rfl | rfl | rfl
    · dsimp only at hs
      split at hs
      · cases hs
      · rw [List.mem_singleton] at hs
        exact hs ▸ htag
    · rcases hkinds _ hkind with h | h <;> cases h
    · rcases hkinds _ hkind with h | h <;> cases h
    · rcases hkinds _ hkind with h | h <;> cases h
    · exact hplace s (Option.mem_toList.1 hs)

/-- Without a place, the tag is the only candidate of that sort. -/
theorem candidates_eq_tag (hkinds : ∀ k, k ∈ kinds ↔ k = .tag ∨ k = .nthChild)
    (htag : t.tag ≠ "") (hplace : t.nthChild = none) : t.candidates o kinds = [t.tag] := by
  have hgroups : t.groups o.maxCombination kinds = [(.tag, [t.tag])] := by
    simp [groups, allGroups, hkinds, htag, hplace]
  rw [candidates, hgroups]
  simp [Options.rankedMixes, combinations, choose, ranked, insertRanked, compounds, continued]

end Tokens

namespace Document

variable {d : Document} {o : Options} {e i p r : NodeId} {s : Segment}

/-! ## Tokens

  The tokens of an element, one by one. -/

/-- The tag among the tokens of an element is its tag. -/
theorem tag_tokens (ht : d.tree.Reachable) {tag : String} (htag : d.tree.tagName? e = some tag) :
    (d.host.tokens o e).tag = tag := by
  show Ascii.lower ((d.tree.tagName? e).getD "") = tag
  rw [htag]
  exact ht.lower_tagName? htag

/-- Without a parent element there is no token of a place. -/
theorem nthChild_tokens_of_none (hp : d.tree.parentElement? e = none) :
    (d.host.tokens o e).nthChild = none := by
  show (positionAmong d.tree.parentElement? d.childrenOf e).map _ = none
  rw [positionAmong, hp]; rfl

/-- Below a parent element, the token of an element tells its place. -/
theorem nthChild_tokens (ht : d.tree.Reachable) (hel : d.tree.isElement e = true)
    (hp : d.tree.parentElement? e = some p) :
    ∃ k, (d.tree.elementChildren p)[k]? = some e ∧
      (d.host.tokens o e).nthChild =
        some (nthChildToken k (d.tree.elementChildren p).length) := by
  have hmem : e ∈ d.tree.elementChildren p :=
    ht.mem_elementChildren_iff.2 ⟨(Tree.parent?_of_parentElement? hp).1, hel⟩
  obtain ⟨k, hk, hget⟩ := Tree.Reachable.idxOf?_of_mem hmem
  refine ⟨k, hget, ?_⟩
  show (positionAmong d.tree.parentElement? d.childrenOf e).map _ = _
  rw [positionAmong, hp]
  show (((d.tree.elementChildren p).idxOf? e).bind _).map _ = _
  rw [hk]; rfl

/-! ## Segments

  A segment singles an element out if its compound holds at this one alone: among the attached
  elements below the same parent element, or among all of them where there is no parent element. -/

/-- A selector of one compound matches where the compound does. -/
theorem matchesAt_singleton (t : Tree) (i : NodeId) (k : Compound) :
    Selector.matchesAt t i [[⟨none, k⟩]] = Compound.matchesAt t i k := by
  simp [Selector.matchesAt, Complex.matchesAt, matchesLeftward]

/-- Below a parent element, a segment that is one compound and finds an element among its siblings
    singles it out.  The search asks among the children of the parent, and these are the siblings
    among the attached elements. -/
theorem singlesOut_of_isUniqueAmongSiblings (ht : d.tree.Reachable)
    (hroot : ¬ d.tree.Above Tree.root Tree.root) (hp : d.tree.parentElement? e = some p)
    (hs : ∀ x, Selector.parse s = .ok x → ∃ k, x = [[⟨none, k⟩]])
    (hu : d.host.isUniqueAmongSiblings e s = true) : d.SinglesOut e s := by
  obtain ⟨-, hq⟩ := Host.isUniqueAmongSiblings_iff.1 hu
  obtain ⟨x, hx, hfilter⟩ := filterMatching_eq_ok_iff.1 hq
  obtain ⟨k, rfl⟩ := hs x hx
  have hparent : d.host.parent e = some p := hp
  rw [hparent] at hfilter
  refine ⟨k, hx, fun i hi hsibling => ?_⟩
  have hpi := (Tree.parent?_of_parentElement? (hsibling p hp)).1
  have hel := ((ht.mem_descendants_iff hroot).1 hi).2
  have hmem : i ∈ d.childrenOf (some p) := ht.mem_elementChildren_iff.2 ⟨hpi, hel⟩
  have hfound : i = e ↔ Selector.matchesAt d.tree i [[⟨none, k⟩]] = true := by
    rw [← List.mem_singleton, hfilter, List.mem_filter, and_iff_right hmem]
  rw [hfound, matchesAt_singleton]

/-- The structural token finds an element among its siblings. -/
theorem isUniqueAmongSiblings_nthChildToken (ht : d.tree.Reachable) (hsize : d.tree.size < 2 ^ 31)
    {k : Nat} (hp : d.tree.parentElement? e = some p)
    (hk : (d.tree.elementChildren p)[k]? = some e) :
    d.host.isUniqueAmongSiblings e (nthChildToken k (d.tree.elementChildren p).length) = true := by
  obtain ⟨hlt, -⟩ := List.getElem?_eq_some_iff.1 hk
  have hlen := ht.length_elementChildren_le p
  obtain ⟨c, hparse, hplace⟩ := exists_structural hlt (by omega)
  have hparent : d.host.parent e = some p := hp
  rw [Host.isUniqueAmongSiblings_iff, hparent]
  refine ⟨?_, filterMatching_eq_ok_iff.2 ⟨_, hparse, ?_⟩⟩
  · intro hempty
    rw [hempty] at hparse
    cases hparse
  · refine (filter_eq_singleton (ht.nodup_elementChildren p) (List.mem_of_getElem? hk) ?_).symm
    intro i hi
    -- every sibling has a place, and the token matches at one place only
    obtain ⟨j, hj, hpos⟩ := ht.elementPosition?_eq hi
    obtain ⟨hjlt, -⟩ := List.getElem?_eq_some_iff.1 hj
    have hmatch : Selector.matchesAt d.tree i [[⟨none, [.pseudo c]⟩]] = c.matchesAt d.tree i := by
      have hel := (ht.mem_elementChildren_iff.1 hi).2
      obtain ⟨el, hel⟩ := Option.isSome_iff_exists.1 hel
      rw [matchesAt_singleton]
      simp [Compound.matchesAt, hel, Component.matchesAt]
    rw [hmatch, hplace d.tree i j hpos hjlt]
    constructor
    · rintro rfl
      rw [hj] at hk
      exact Option.some.inj hk
    · rintro rfl
      exact (List.getElem?_inj hjlt (ht.nodup_elementChildren p)).1 (hj.trans hk.symm)

/-- **Below a parent element there is a segment, and it singles the element out**, where places are
    in use and every candidate is one compound, if it is a selector at all.  Some candidate finds
    the element, namely its place; the first one that does is taken. -/
theorem exists_segment_of_nthChild (ht : d.tree.Reachable)
    (hroot : ¬ d.tree.Above Tree.root Tree.root) (hsize : d.tree.size < 2 ^ 31) {kinds : List Kind}
    (hkinds : .nthChild ∈ kinds) (he : e ∈ d.elements) (hp : d.tree.parentElement? e = some p)
    (hcompound : ∀ s ∈ (d.host.tokens o e).candidates o kinds, ∀ x, Selector.parse s = .ok x →
      ∃ k, x = [[⟨none, k⟩]]) :
    ∃ s, d.host.segment? o kinds e (d.host.tokens o e) = some s ∧ d.SinglesOut e s := by
  have hel := ((ht.mem_descendants_iff hroot).1 he).2
  obtain ⟨k, hk, htoken⟩ := nthChild_tokens (o := o) ht hel hp
  -- the structural token is a candidate that would do; the first one that does may be another
  have hsome : (d.host.segment? o kinds e (d.host.tokens o e)).isSome = true := by
    rw [Host.segment?, List.find?_isSome]
    refine ⟨_, ?_, isUniqueAmongSiblings_nthChildToken ht hsize hp hk⟩
    refine Tokens.mem_candidates (g := (.nthChild, (d.host.tokens o e).nthChild.toList)) ?_
      hkinds (Option.mem_toList.2 htoken)
    simp [Tokens.allGroups]
  obtain ⟨s, hs⟩ := Option.isSome_iff_exists.1 hsome
  exact ⟨s, hs, singlesOut_of_isUniqueAmongSiblings ht hroot hp
    (hcompound s (List.mem_of_find?_eq_some hs)) (List.find?_some hs)⟩

/-- With tags and places alone, every candidate below a parent element is one compound. -/
theorem exists_segment_below (ht : d.tree.Reachable) (hroot : ¬ d.tree.Above Tree.root Tree.root)
    (hsize : d.tree.size < 2 ^ 31) (hkinds : ∀ k, k ∈ o.kinds ↔ k = .tag ∨ k = .nthChild)
    (he : e ∈ d.elements) (hp : d.tree.parentElement? e = some p)
    (hnames : ∀ tag, d.tree.tagName? e = some tag → ∀ c ∈ tag.toList, Reader.isNameChar c = true) :
    ∃ s, d.host.segment? o o.kinds e (d.host.tokens o e) = some s ∧ d.SinglesOut e s := by
  have hel := ((ht.mem_descendants_iff hroot).1 he).2
  refine exists_segment_of_nthChild ht hroot hsize ((hkinds _).2 (Or.inr rfl)) he hp
    fun s hs x hx => Selector.parse_of_joint ?_ hx
  refine Tokens.isJoint_of_mem_candidates (fun k hk => (hkinds k).1 hk) ?_ ?_ hs
  · obtain ⟨tag, htag⟩ := Tree.exists_tagName? hel
    rw [tag_tokens ht htag]
    exact fun c hc => Reader.isJoint_of_isNameChar (hnames tag htag c hc)
  · intro token htoken'
    obtain ⟨k, hk, htoken⟩ := nthChild_tokens (o := o) ht hel hp
    rw [htoken] at htoken'
    cases htoken'
    exact isJoint_of_mem_nthChildToken _ _

/-- A tag matches where the tag of the element is the same but for case. -/
theorem matchesAt_tag_iff (t : Tree) (i : NodeId) (name : String) :
    Compound.matchesAt t i [.tag name] = true ↔
      ∃ tag, t.tagName? i = some tag ∧ Ascii.lower tag = Ascii.lower name := by
  unfold Compound.matchesAt Tree.tagName?
  cases t.element? i <;> simp [Component.matchesAt, Ascii.sameLetters]

/-! ## Documents with one element at the top

  What is shared by the documents of this module and of others: there is a way up from every
  attached element to one element at the top. -/

/-- One element at the top; all other attached elements hang from elements. -/
structure HasOneTop (d : Document) (r : NodeId) : Prop where
  top : d.tree.elementChildren Tree.root = [r]
  parents : ∀ e ∈ d.elements, e ≠ r → ∃ p, d.tree.parentElement? e = some p

namespace HasOneTop

variable (hd : d.HasOneTop r) (ht : d.tree.Reachable)
include hd ht

/-- The element at the top hangs from the document node. -/
theorem parent?_top : d.tree.parent? r = some Tree.root ∧ d.tree.isElement r = true := by
  rw [← ht.mem_elementChildren_iff, hd.top]
  exact List.mem_singleton_self r

/-- So it has no parent that is an element. -/
theorem parentElement?_top : d.tree.parentElement? r = none := by
  rw [Tree.parentElement?, (hd.parent?_top ht).1]
  simp [Option.filter, ht.isElement_root]

/-- It is attached. -/
theorem mem_elements (hroot : ¬ d.tree.Above Tree.root Tree.root) : r ∈ d.elements := by
  obtain ⟨hp, hel⟩ := hd.parent?_top ht
  exact (ht.mem_descendants_iff hroot).2 ⟨.parent hp, hel⟩

/-- At the top, a selector finds the element among its siblings when it matches it. -/
theorem isUniqueAmongSiblings_iff :
    d.host.isUniqueAmongSiblings r s = true ↔
      s ≠ "" ∧ ∃ x, Selector.parse s = .ok x ∧ x.matchesAt d.tree r = true := by
  have hparent : d.host.parent r = none := hd.parentElement?_top ht
  have hchildren : d.childrenOf none = [r] := hd.top
  rw [Host.isUniqueAmongSiblings_iff, hparent]
  refine and_congr_right fun _ => filterMatching_eq_ok_iff.trans ?_
  refine exists_congr fun x => and_congr_right fun _ => ?_
  rw [hchildren, List.filter_singleton]
  cases x.matchesAt d.tree r <;> simp

/-- A tag that reads as one compound finds the element at the top among its siblings. -/
theorem isUniqueAmongSiblings_tag {tag : String} (htag : d.tree.tagName? r = some tag)
    (hname : ∀ c ∈ tag.toList, Reader.isNameChar c = true) {k : Compound}
    (hparse : Selector.parse tag = .ok [[⟨none, k⟩]]) :
    d.host.isUniqueAmongSiblings r tag = true := by
  refine (hd.isUniqueAmongSiblings_iff ht).2 ⟨?_, _, hparse, ?_⟩
  · rintro rfl
    cases hparse
  · rw [matchesAt_singleton, Selector.parse_of_names hname hparse, matchesAt_tag_iff]
    exact ⟨tag, htag, (Ascii.lower_lower tag).symm⟩

end HasOneTop

/-! ## Documents with their own tag at the top

  The element at the top has no siblings, so its place says nothing, and only its tag can tell it
  from the rest of the document. -/

/-- One element at the top, whose tag no other attached element has; below it, elements hang from
    elements, and tags are made of name characters. -/
structure HasOwnTop (d : Document) (r : NodeId) : Prop where
  top : d.tree.elementChildren Tree.root = [r]
  parents : ∀ e ∈ d.elements, e ≠ r → ∃ p, d.tree.parentElement? e = some p
  names : ∀ e ∈ d.elements, ∀ tag, d.tree.tagName? e = some tag →
    ∀ c ∈ tag.toList, Reader.isNameChar c = true
  tag_reads : ∀ tag, d.tree.tagName? r = some tag →
    ∃ x, Selector.parse tag = .ok [[⟨none, [.tag x]⟩]]
  tag_alone : ∀ e ∈ d.elements, d.tree.tagName? e = d.tree.tagName? r → e = r

/-- What makes the tag at the top its own, by looking at every element. -/
theorem hasOwnTop_of_forall (htop : d.tree.elementChildren Tree.root = [r])
    (hparents : ∀ e ∈ d.elements, e ≠ r → (d.tree.parentElement? e).isSome = true)
    (hnames : ∀ e ∈ d.elements,
      (d.tree.tagName? e).all (fun tag => tag.toList.all Reader.isNameChar) = true)
    (hreads : ∀ tag ∈ d.tree.tagName? r, Selector.parse tag = .ok [[⟨none, [.tag tag]⟩]])
    (halone : ∀ e ∈ d.elements, d.tree.tagName? e = d.tree.tagName? r → e = r) :
    d.HasOwnTop r where
  top := htop
  parents e he hne := Option.isSome_iff_exists.1 (hparents e he hne)
  names e he tag htag := by
    have hname := hnames e he
    rw [htag] at hname
    exact List.all_eq_true.1 hname
  tag_reads tag htag := ⟨tag, hreads tag htag⟩
  tag_alone := halone

/-- A document whose top has its own tag has one element at the top. -/
theorem HasOwnTop.hasOneTop (hd : d.HasOwnTop r) : d.HasOneTop r := ⟨hd.top, hd.parents⟩

/-- Its top has no parent element. -/
theorem HasOwnTop.parentElement?_top (hd : d.HasOwnTop r) (ht : d.tree.Reachable) :
    d.tree.parentElement? r = none := hd.hasOneTop.parentElement?_top ht

section HasOwnTop

variable (ht : d.tree.Reachable) (hroot : ¬ d.tree.Above Tree.root Tree.root) (hd : d.HasOwnTop r)
include ht hroot hd

/-- Its top is attached. -/
theorem HasOwnTop.mem_elements : r ∈ d.elements := hd.hasOneTop.mem_elements ht hroot

omit hroot in
/-- At the top, a selector finds the element among its siblings when it matches it. -/
theorem HasOwnTop.isUniqueAmongSiblings_iff :
    d.host.isUniqueAmongSiblings r s = true ↔
      s ≠ "" ∧ ∃ x, Selector.parse s = .ok x ∧ x.matchesAt d.tree r = true :=
  hd.hasOneTop.isUniqueAmongSiblings_iff ht

/-- The tag at the top is a selector, and matches no other attached element. -/
theorem HasOwnTop.exists_tag :
    ∃ tag, d.tree.tagName? r = some tag ∧ tag ≠ "" ∧
      Selector.parse tag = .ok [[⟨none, [.tag tag]⟩]] ∧
      ∀ i ∈ d.elements, Compound.matchesAt d.tree i [.tag tag] = true ↔ i = r := by
  have hr := hd.mem_elements ht hroot
  obtain ⟨tag, htag⟩ := Tree.exists_tagName? ((ht.mem_descendants_iff hroot).1 hr).2
  obtain ⟨x, hparse⟩ := hd.tag_reads tag htag
  have hlower := ht.lower_tagName? htag
  have hx : x = tag := by
    have := Selector.parse_of_names (hd.names r hr tag htag) hparse
    rw [List.cons.injEq, Component.tag.injEq] at this
    rw [this.1, hlower]
  subst hx
  refine ⟨x, htag, ?_, hparse, fun i hi => ?_⟩
  · rintro rfl
    cases hparse
  · rw [matchesAt_tag_iff]
    constructor
    · rintro ⟨tag', htag', heq⟩
      rw [ht.lower_tagName? htag', hlower] at heq
      exact hd.tag_alone i hi (by rw [htag', htag, heq])
    · rintro rfl
      exact ⟨x, htag, rfl⟩

/-- The tag finds the element at the top among its siblings. -/
theorem HasOwnTop.isUniqueAmongSiblings_tag {tag : String} (htag : d.tree.tagName? r = some tag) :
    d.host.isUniqueAmongSiblings r tag = true := by
  obtain ⟨x, hparse⟩ := hd.tag_reads tag htag
  have hname := hd.names r (hd.mem_elements ht hroot) tag htag
  exact hd.hasOneTop.isUniqueAmongSiblings_tag ht htag hname hparse

/-- **At the top the segment is the tag, and it singles the element out.**  There the search asks
    among the elements at the top, where there is only this one; that no other attached element has
    the tag is what the document is asked for. -/
theorem HasOwnTop.exists_segment_top (hkinds : ∀ k, k ∈ o.kinds ↔ k = .tag ∨ k = .nthChild) :
    ∃ s, d.host.segment? o o.kinds r (d.host.tokens o r) = some s ∧ d.SinglesOut r s := by
  obtain ⟨tag, htag, hne, hparse, hmatch⟩ := hd.exists_tag ht hroot
  -- without a parent element there is no structural token
  have hcandidates : (d.host.tokens o r).candidates o o.kinds = [tag] := by
    rw [Tokens.candidates_eq_tag hkinds (by rw [tag_tokens ht htag]; exact hne)
      (nthChild_tokens_of_none (hd.parentElement?_top ht)), tag_tokens ht htag]
  refine ⟨tag, ?_, _, hparse, fun i hi _ => hmatch i hi⟩
  rw [Host.segment?, hcandidates, List.find?_singleton,
    if_pos (hd.isUniqueAmongSiblings_tag ht hroot htag)]

/-- Every attached element has a segment that singles it out. -/
theorem HasOwnTop.exists_segment (hsize : d.tree.size < 2 ^ 31)
    (hkinds : ∀ k, k ∈ o.kinds ↔ k = .tag ∨ k = .nthChild) (he : e ∈ d.elements) :
    ∃ s, d.host.segment? o o.kinds e (d.host.tokens o e) = some s ∧ d.SinglesOut e s := by
  by_cases her : e = r
  · rw [her]
    exact hd.exists_segment_top ht hroot hkinds
  · obtain ⟨p, hp⟩ := hd.parents e he her
    exact exists_segment_below ht hroot hsize hkinds he hp (hd.names e he)

end HasOwnTop

/-! ## The search

  A line of segments, each of which singles its element out, finds the element at its end. -/

/-- Where every element of the lineage has a segment, the chain of a level is their line. -/
theorem chainAt?_eq_line {seg : NodeId → Segment} {kinds : List Kind}
    (hseg : ∀ a ∈ d.host.lineage e,
      d.host.segment? o kinds a (d.host.tokens o a) = some (seg a)) :
    d.host.chainAt? o (d.host.tokenLineage o e) kinds = some (d.line seg e) := by
  have hslots : ((d.host.tokenLineage o e).map fun (a, t) => d.host.segment? o kinds a t) =
      (d.line seg e).slots := by
    rw [Host.tokenLineage, List.map_map, line, Chain.ofSegments, List.map_map]
    exact List.map_congr_left fun a ha => hseg a (List.mem_reverse.1 ha)
  have hhead : (d.line seg e).slots.head? ≠ some none := by
    rw [line, Chain.ofSegments, List.head?_map]
    cases ((d.host.lineage e).reverse.map seg).head? <;> simp
  rw [Host.chainAt?, hslots]
  exact if_neg hhead

/-- **Where every element has a segment that singles it out, every element gets a selector.**  The
    chain of the last level joins these segments from the top down to the element, and with children
    linked to parents it leads to this element alone. -/
theorem isSome_of_segments (ht : d.tree.Reachable) (hroot : ¬ d.tree.Above Tree.root Tree.root)
    (hkinds : o.kinds ≠ []) (hseg : ∀ a ∈ d.elements, ∃ s,
      d.host.segment? o o.kinds a (d.host.tokens o a) = some s ∧ d.SinglesOut a s) :
    ∀ e ∈ d.elements, (d.host.shortestSelector? o e).isSome = true := by
  intro e he
  choose! seg hsegment hout using hseg
  have hchain : d.host.chainAt? o (d.host.tokenLineage o e) o.kinds = some (d.line seg e) :=
    chainAt?_eq_line fun a ha => hsegment a (mem_elements_of_mem_lineage ht hroot he ha)
  rw [Host.shortestSelector?_eq_map, Option.isSome_map]
  exact Host.uniqueChain?_isSome hkinds hchain (isUnique_line ht hroot hout he)

/-- **Tags and places among siblings find every attached element**, in a document of fewer than 2^31
    nodes with one element at the top whose tag is its own.  The document node must not hang below
    itself: walking through the document would not end.

    Places are numbers of 32 bits in a selector, hence the bound.  The order of the two kinds does
    not matter, since the last level has both. -/
theorem shortestSelector?_isSome_of_tags (ht : d.tree.Reachable)
    (hroot : ¬ d.tree.Above Tree.root Tree.root) (hsize : d.tree.size < 2 ^ 31)
    (hd : d.HasOwnTop r) (hkinds : o.kinds = [.tag, .nthChild] ∨ o.kinds = [.nthChild, .tag]) :
    ∀ e ∈ d.elements, (d.host.shortestSelector? o e).isSome = true := by
  have hmem : ∀ k, k ∈ o.kinds ↔ k = .tag ∨ k = .nthChild := by
    intro k
    rcases hkinds with h | h <;> simp [h, or_comm]
  have hne : o.kinds ≠ [] := by
    rcases hkinds with h | h <;> simp [h]
  -- on the last level both kinds are in use, and one of them singles the element out
  exact isSome_of_segments ht hroot hne fun a ha => hd.exists_segment ht hroot hsize hmem ha

/-- A page with two paragraphs in its body. -/
def twoParagraphs : Document := Document.ofSteps
  [.edit (.element "html"), .edit (.append 0 1), .edit (.element "body"), .edit (.append 1 2),
   .edit (.element "p"), .edit (.append 2 3), .edit (.element "p"), .edit (.append 2 4), .finalize]

/-- Both paragraphs are found, though they differ in nothing but their places. -/
theorem shortestSelector?_isSome_of_paragraphs :
    twoParagraphs.HasOwnTop 1 ∧ twoParagraphs.elements = [1, 2, 3, 4] ∧
    (twoParagraphs.host.shortestSelector? (Options.standard.withKinds [.nthChild, .tag]) 4).isSome
      = true := by
  have hel : twoParagraphs.elements = [1, 2, 3, 4] := by decide +kernel
  have htop : twoParagraphs.HasOwnTop 1 := hasOwnTop_of_forall (by decide +kernel)
    (by decide +kernel) (by decide +kernel) (by decide +kernel) (by decide +kernel)
  have hacyclic : twoParagraphs.tree.Acyclic := Tree.acyclic_of_parent?_lt (by decide +kernel)
  have ht : twoParagraphs.tree.Reachable := Tree.reachable_ofSteps _
  have hmem : 4 ∈ twoParagraphs.elements := by
    rw [hel]
    decide
  exact ⟨htop, hel, shortestSelector?_isSome_of_tags ht (hacyclic Tree.root) (by decide +kernel)
    htop (Or.inr (by decide)) 4 hmem⟩

/-- The document node hung below the element at its top.  The two texts hang nowhere: they make the
    tree large enough for the bounded walk to come by the element twice. -/
def loopedPage : Document := Document.ofSteps
  [.edit (.element "main"), .edit (.append 0 1), .edit (.append 1 0), .edit (.text "a"),
   .edit (.text "b")]

/-- A page beside which a paragraph hangs from an element that hangs nowhere. -/
def strayPage : Document := Document.ofSteps
  [.edit (.element "main"), .edit (.append 0 1), .edit (.element "div"), .edit (.element "p"),
   .edit (.append 2 3)]

/-- **Where the document node hangs below itself nothing is found.**  Nothing else that the theorem
    asks for is missing, but a walk through the document does not end, and however far it is followed
    it comes by the element again.

    To hang from another element is not enough, either: that element must be in the document. -/
theorem not_forall_isSome_of_tags :
    (¬ ∀ (d : Document) (o : Options) (r : NodeId), d.tree.Reachable → d.tree.size < 2 ^ 31 →
      d.HasOwnTop r → o.kinds = [.tag, .nthChild] ∨ o.kinds = [.nthChild, .tag] →
      ∀ e ∈ d.elements, (d.host.shortestSelector? o e).isSome = true) ∧
    (loopedPage.HasOwnTop 1 ∧
      (¬ ∃ all, loopedPage.tree.Walk (loopedPage.tree.children Tree.root) all) ∧
      loopedPage.host.shortestSelector? (Options.standard.withKinds [.tag, .nthChild]) 1 = none) ∧
    strayPage.HasOwnTop 1 ∧ strayPage.tree.Acyclic ∧ strayPage.tree.parentElement? 3 = some 2 ∧
      strayPage.host.shortestSelector? (Options.standard.withKinds [.tag, .nthChild]) 3 = none := by
  have hlooped : loopedPage.HasOwnTop 1 := hasOwnTop_of_forall (by decide +kernel)
    (by decide +kernel) (by decide +kernel) (by decide +kernel) (by decide +kernel)
  have hnone : loopedPage.host.shortestSelector? (Options.standard.withKinds [.tag, .nthChild]) 1 =
      none := by decide +kernel
  have hstray : strayPage.HasOwnTop 1 := hasOwnTop_of_forall (by decide +kernel)
    (by decide +kernel) (by decide +kernel) (by decide +kernel) (by decide +kernel)
  -- the element is the parent of the document node, and this is the parent of the element
  have hloop : loopedPage.tree.Above Tree.root Tree.root := by
    have hup : loopedPage.tree.parent? Tree.root = some 1 := by decide +kernel
    have htop : loopedPage.tree.parent? 1 = some Tree.root := by decide +kernel
    exact .further hup (.parent htop)
  refine ⟨fun hall => ?_, ⟨hlooped, ?_, hnone⟩, hstray, ?_, by decide +kernel, by decide +kernel⟩
  · have hsome := hall loopedPage (Options.standard.withKinds [.tag, .nthChild]) 1
      (Tree.reachable_ofSteps _) (by decide +kernel) hlooped (Or.inl (by decide)) 1
      (by decide +kernel)
    rw [hnone] at hsome
    cases hsome
  · exact (Tree.reachable_ofSteps _).not_exists_walk hloop
  · exact Tree.acyclic_of_parent?_lt (by decide +kernel)

end Document

end Pinpoint
