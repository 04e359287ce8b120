/-
  When the standard options find every element.

  With all kinds in use, an element below a parent always has a segment: its place will do.  The
  element at the top has no place, and its segment is its mark on every level: the id, or else a
  class, or else the tag.  The first candidate that tells it from its siblings is taken, and it has
  none, so whether the mark is found elsewhere in the document is not looked at.

  1. The mark of an element (`Host.mark`).
  2. **The segment at the top is the mark, on every level** (`HasOwnTop.parse_segment`).
  3. **So the standard options find every element exactly if the mark at the top is its own**
     (`isSome_standard_iff`).  A tag of its own is not enough: an id comes first.
-/
import Mathlib.Data.List.Find
import Pinpoint.Proofs.Search.Bare
import Pinpoint.Proofs.Search.Completeness
import Pinpoint.Proofs.Search.Priority

namespace Pinpoint

/-! ## Marks

  The mark is read off the data of the element, without a search. -/

/-- The id of an element, unless it is empty. -/
def Host.nonemptyId {E ε : Type} (h : Host E ε) (e : E) : Option String :=
  (h.id e).filter fun v => !v.isEmpty

/-- What tells an element at the top: its id, if it has one that is not empty; else its first bare
    class; else its tag.  A class that is not bare cannot be written behind the sign for classes, so
    it is tried and refused. -/
def Host.mark {E ε : Type} (h : Host E ε) (e : E) : Component :=
  match h.nonemptyId e with
  | some v => .id v
  | none =>
    match (h.classes e).find? isBare with
    | some c => .className c
    | none => .tag (h.tagName e)

/-! ## The standard options

  Ids come first, then classes, attributes, tags and places, and no attributes are in use.  So the
  first candidates of an element are its id or, without one, its single classes in the order in
  which they are listed. -/

namespace Options

/-- Nothing is left out but the empty text. -/
theorem isUsable_standard : standard.isUsable = fun v => !v.isEmpty := by
  funext v
  have hexclude : standard.isExcluded v = false := rfl
  rw [isUsable, hexclude, Bool.not_false, Bool.and_true]

/-- Ids may be used on every level, and classes on all but the first. -/
theorem mem_levels_standard {kinds : List Kind} (h : kinds ∈ standard.levels) :
    .id ∈ kinds ∧ (kinds = [.id] ∨ .className ∈ kinds) := by
  have hall : ∀ kinds ∈ standard.levels, .id ∈ kinds ∧ (kinds = [.id] ∨ .className ∈ kinds) := by
    decide
  exact hall kinds h

end Options

/-- The first of the distinct items that will do is the first of all items that will do. -/
theorem find?_distinct {α : Type} [DecidableEq α] (p : α → Bool) (l : List α) :
    (distinct l).find? p = l.find? p := by
  induction l with
  | nil => rfl
  | cons x l ih =>
    rw [distinct, List.find?_cons, List.find?_cons, List.find?_filter, ← ih]
    cases hp : p x with
    | true => rfl
    | false =>
      refine List.find?_congr fun y _ => ?_
      by_cases hy : y = x
      · simp [hy, hp]
      · simp [hy]

namespace Host

variable {E ε : Type} {h : Host E ε} {e : E} {kinds : List Kind} {v : String}

/-- The token of an id is the id with its sign, unless it is empty. -/
theorem id_tokens_standard (h : Host E ε) (e : E) :
    (h.tokens .standard e).id = (h.nonemptyId e).map ("#" ++ ·) := by
  rw [tokens, Options.isUsable_standard, nonemptyId]

/-- The tokens of the classes are the classes with their sign, each of them once and without the
    empty one. -/
theorem classes_tokens_standard (h : Host E ε) (e : E) :
    (h.tokens .standard e).classes =
      distinct (((h.classes e).filter fun v => !v.isEmpty).map ("." ++ ·)) := by
  rw [tokens, Options.isUsable_standard]

/-- **The id is the first candidate on every level.** -/
theorem exists_candidates_of_id (hv : h.nonemptyId e = some v)
    (hkinds : kinds ∈ Options.standard.levels) :
    ∃ rest, (h.tokens .standard e).candidates .standard kinds = ("#" ++ v) :: rest := by
  obtain ⟨hid, hne⟩ := Option.filter_eq_some_iff.1 hv
  refine exists_candidates_of_first_id rfl hid ?_ hkinds
  rw [Options.isUsable_standard]
  exact hne

/-- **Without an id, single classes are the first candidates**, on the levels that use classes. -/
theorem exists_candidates_of_classes (hid : h.nonemptyId e = none)
    (hkinds : .className ∈ kinds) (hclasses : (h.tokens .standard e).classes ≠ []) :
    ∃ rest, (h.tokens .standard e).candidates .standard kinds =
      (h.tokens .standard e).classes ++ rest := by
  obtain ⟨joined, hjoined⟩ : ∃ joined, joinedCombinations (h.tokens .standard e).classes 1
      Options.standard.maxCombination = (h.tokens .standard e).classes ++ joined :=
    exists_joinedCombinations_eq Options.standard.one_le_maxCombination
  have htoken : (h.tokens .standard e).id = none := by
    rw [id_tokens_standard, hid, Option.map_none]
  have hrank : ∀ k : Kind, k ≠ .className → k ≠ .id →
      Options.standard.rank .className < Options.standard.rank k := by
    intro k hk hk'
    cases k <;> first | exact absurd rfl hk | exact absurd rfl hk' | decide
  have hgroup : ((.className, (h.tokens .standard e).classes ++ joined) : Group) ∈
      (h.tokens .standard e).allGroups Options.standard.maxCombination := by
    rw [← hjoined]
    simp [Tokens.allGroups]
  have hbest : ∀ g' ∈ (h.tokens .standard e).allGroups Options.standard.maxCombination,
      g'.1 ∈ kinds → g'.2 ≠ [] → g'.1 ≠ .className →
      Options.standard.rank .className < Options.standard.rank g'.1 := by
    intro g' hg' _ hne' hne
    refine hrank g'.1 hne fun hk => ?_
    -- the group of the id has nothing to contribute
    simp only [Tokens.allGroups, List.mem_cons, List.not_mem_nil, or_false] at hg'
    rcases hg' with rfl | rfl | rfl | rfl | rfl
    · cases hk
    · rw [htoken] at hne'
      exact hne' rfl
    · cases hk
    · cases hk
    · cases hk
  obtain ⟨rest, hrest⟩ := Tokens.exists_candidates_eq hgroup hkinds (by simp [hclasses]) hbest
  exact ⟨joined ++ rest, by rw [hrest, List.append_assoc]⟩

/-- Without an id, the first level has no candidates. -/
theorem candidates_of_no_id (hid : h.nonemptyId e = none) :
    (h.tokens .standard e).candidates .standard [.id] = [] := by
  have htoken : (h.tokens .standard e).id = none := by
    rw [id_tokens_standard, hid, Option.map_none]
  have hgroups : (h.tokens .standard e).groups Options.standard.maxCombination [.id] = [] := by
    simp [Tokens.groups, Tokens.allGroups, htoken]
  rw [Tokens.candidates, hgroups]
  rfl

end Host

namespace Document

variable {d : Document} {e r : NodeId} {kinds : List Kind} {s v : String} {o : Options}

/-! ## The segment at the top

  The element at the top has no siblings.  So the first of its candidates that can be read and holds
  is taken: the id; or the first bare class; or, with neither, one that can say nothing but the tag.
  In each case the segment parses to the mark. -/

/-- An id holds at the elements that keep it. -/
theorem matchesAt_id_iff : Compound.matchesAt d.tree e [.id v] = true ↔ d.host.id e = some v := by
  show _ ↔ (d.tree.element? e).bind Element.id = some v
  unfold Compound.matchesAt
  cases d.tree.element? e <;> simp [Component.matchesAt]

/-- A class of an element holds at it. -/
theorem matchesAt_className (hv : v ∈ d.host.classes e) :
    Compound.matchesAt d.tree e [.className v] = true := by
  have hv : v ∈ ((d.tree.element? e).map Element.classes).getD [] := hv
  cases hel : d.tree.element? e with
  | none =>
    rw [hel] at hv
    cases hv
  | some el =>
    rw [hel] at hv
    simpa [Compound.matchesAt, Component.matchesAt, hel, Element.hasClass] using hv

section HasOwnTop

variable (ht : d.tree.Reachable) (hroot : ¬ d.tree.Above Tree.root Tree.root) (hd : d.HasOwnTop r)
  (hplain : d.host.hasPlainNames r = true)
include ht hd hplain

/-- A class finds the element at the top among its siblings if it is bare.  There are no siblings,
    so nothing is asked of a candidate but that it is read and holds. -/
theorem HasOwnTop.isUniqueAmongSiblings_className (hv : v ∈ d.host.classes r) :
    d.host.isUniqueAmongSiblings r ("." ++ v) = isBare v := by
  have hname : isPlainName v = true := (Host.hasPlainNames_iff.1 hplain).2.2 v hv
  rw [Bool.eq_iff_iff, hd.isUniqueAmongSiblings_iff ht]
  constructor
  · rintro ⟨-, x, hx, -⟩
    exact isBare_of_parse_className hname hx
  · intro hbare
    refine ⟨Host.append_ne_empty (by decide), _, Selector.parse_className hname hbare, ?_⟩
    rw [matchesAt_singleton]
    exact matchesAt_className hv

/-- Of its single classes, the first bare one finds it. -/
theorem HasOwnTop.find?_classes :
    (d.host.tokens .standard r).classes.find? (d.host.isUniqueAmongSiblings r) =
      ((d.host.classes r).find? isBare).map ("." ++ ·) := by
  rw [Host.classes_tokens_standard, find?_distinct, List.find?_map, List.find?_filter]
  congr 1
  refine List.find?_congr fun v hv => ?_
  rw [Function.comp_apply, hd.isUniqueAmongSiblings_className ht hplain hv]
  cases hbare : isBare v with
  | false => simp
  | true =>
    rw [isBare, Bool.and_eq_true] at hbare
    simpa using hbare.1

/-- With an id, the segment at the top is the id. -/
theorem HasOwnTop.parse_segment_of_id (hid : d.host.nonemptyId r = some v)
    (hkinds : kinds ∈ Options.standard.levels)
    (hs : d.host.segment? .standard kinds r (d.host.tokens .standard r) = some s) :
    Selector.parse s = .ok [[⟨none, [.id v]⟩]] := by
  obtain ⟨hv, hne⟩ := Option.filter_eq_some_iff.1 hid
  have hne : v ≠ "" := by simpa using hne
  have hname : isPlainName v = true := (Host.hasPlainNames_iff.1 hplain).2.1 v hv
  have hparse := Selector.parse_id hname hne
  -- the id is tried first, and it will do
  have hunique : d.host.isUniqueAmongSiblings r ("#" ++ v) = true := by
    refine (hd.isUniqueAmongSiblings_iff ht).2 ⟨Host.append_ne_empty (by decide), _, hparse, ?_⟩
    rw [matchesAt_singleton]
    exact matchesAt_id_iff.2 hv
  obtain ⟨rest, hrest⟩ := Host.exists_candidates_of_id hid hkinds
  rw [Host.segment?, hrest, List.find?_cons, hunique] at hs
  cases hs
  exact hparse

/-- Without an id, the segment at the top is the first bare class, if there is one. -/
theorem HasOwnTop.parse_segment_of_class (hid : d.host.nonemptyId r = none)
    (hclass : (d.host.classes r).find? isBare = some v) (hkinds : kinds ∈ Options.standard.levels)
    (hs : d.host.segment? .standard kinds r (d.host.tokens .standard r) = some s) :
    Selector.parse s = .ok [[⟨none, [.className v]⟩]] := by
  have hname : isPlainName v = true :=
    (Host.hasPlainNames_iff.1 hplain).2.2 v (List.mem_of_find?_eq_some hclass)
  have hfind := hd.find?_classes ht hplain
  rw [hclass, Option.map_some] at hfind
  rw [Host.segment?] at hs
  -- nothing is tried before classes
  rcases (Options.mem_levels_standard hkinds).2 with rfl | hk
  · rw [Host.candidates_of_no_id hid] at hs
    cases hs
  · obtain ⟨rest, hrest⟩ := Host.exists_candidates_of_classes hid hk
      (List.ne_nil_of_mem (List.mem_of_find?_eq_some hfind))
    rw [hrest, List.find?_append, hfind, Option.some_or] at hs
    cases hs
    exact Selector.parse_className hname (List.find?_some hclass)

include hroot
omit hplain

/-- Without an id and a bare class, a description of the element at the top that is a selector says
    its tag and nothing else. -/
theorem HasOwnTop.compound_eq_tag (hid : d.host.nonemptyId r = none)
    (hclass : (d.host.classes r).find? isBare = none) {q : Description} (hq : q.IsPlain)
    (hof : q.IsOf d.host r) (hattributes : q.attributes = []) (hne : q.text ≠ "") {x : Selector}
    (hx : Selector.parse q.text = .ok x) : q.compound = [.tag (d.host.tagName r)] := by
  obtain ⟨hidne, hbare⟩ := hq.bare_of_parse hne hx
  have hqid : q.id = none := by
    cases hv : q.id with
    | none => rfl
    | some v =>
      rw [Host.nonemptyId, hof.id v hv, Option.filter_some] at hid
      simp [hidne v hv] at hid
  have hqclasses : q.classes = [] := by
    refine List.eq_nil_iff_forall_not_mem.2 fun v hv => ?_
    exact List.find?_eq_none.1 hclass v (hof.classes v hv) (hbare v hv)
  have hqplace : q.place = none := by
    cases hp : q.place with
    | none => rfl
    | some p =>
      obtain ⟨index, count, hposition, -⟩ := hof.place p hp
      have hposition : positionAmong d.tree.parentElement? d.childrenOf r =
        some (index, count) := hposition
      rw [positionAmong, hd.parentElement?_top ht] at hposition
      cases hposition
  have htag : q.tag = some (d.host.tagName r) := by
    cases hw : q.tag with
    | none =>
      have hempty : q.text = "" := by
        simp [Description.text, Description.tokens, hw, hqid, hqclasses, hattributes, hqplace]
      exact absurd hempty hne
    | some w =>
      obtain ⟨tag, htag, -⟩ := hd.exists_tag ht hroot
      have hname : d.host.tagName r = tag := by
        show (d.tree.tagName? r).getD "" = tag
        rw [htag]
        rfl
      rw [(hof.tag w hw).1, hname, ht.lower_tagName? htag]
  rw [Description.compound, Description.conditions, htag, hqid, hqclasses, hattributes, hqplace]
  rfl

include hplain

/-- **On every level the segment at the top is the mark.** -/
theorem HasOwnTop.parse_segment (hkinds : kinds ∈ Options.standard.levels)
    (hs : d.host.segment? .standard kinds r (d.host.tokens .standard r) = some s) :
    Selector.parse s = .ok [[⟨none, [d.host.mark r]⟩]] := by
  rw [Host.mark]
  cases hid : d.host.nonemptyId r with
  | some v => exact hd.parse_segment_of_id ht hplain hid hkinds hs
  | none =>
    dsimp only
    cases hclass : (d.host.classes r).find? isBare with
    | some v => exact hd.parse_segment_of_class ht hplain hid hclass hkinds hs
    | none =>
      -- whichever candidate is taken, it can say nothing of ids and classes
      rw [Host.segment?] at hs
      have hmem := List.mem_of_find?_eq_some hs
      obtain ⟨hne, x, hx, -⟩ := (hd.isUniqueAmongSiblings_iff ht).1 (List.find?_some hs)
      obtain ⟨q, hq, hof, hattributes, rfl⟩ :=
        Host.exists_description_of_names hplain rfl hmem (Host.mem_kinds_of_mem_levels hkinds)
      rw [hx, (hq.parse_text hne hx).1,
        hd.compound_eq_tag ht hroot hid hclass hq hof hattributes hne hx]

/-- The mark holds at its element. -/
theorem HasOwnTop.matchesAt_segment (hkinds : kinds ∈ Options.standard.levels)
    (hs : d.host.segment? .standard kinds r (d.host.tokens .standard r) = some s) :
    Compound.matchesAt d.tree r [d.host.mark r] = true := by
  have hparse := hd.parse_segment ht hroot hplain hkinds hs
  obtain ⟨-, x, hx, hmatch⟩ := (hd.isUniqueAmongSiblings_iff ht).1 (List.find?_some hs)
  rw [hparse] at hx
  cases hx
  rwa [matchesAt_singleton] at hmatch

omit hplain in
/-- The last level has a segment at the top, since it may use the tag. -/
theorem HasOwnTop.exists_segment_standard :
    ∃ s, d.host.segment? .standard Options.standard.kinds r (d.host.tokens .standard r) =
      some s := by
  obtain ⟨tag, htag, hne, -⟩ := hd.exists_tag ht hroot
  rw [← Option.isSome_iff_exists, Host.segment?, List.find?_isSome]
  refine ⟨tag, ?_, hd.isUniqueAmongSiblings_tag ht hroot htag⟩
  have hkind : Kind.tag ∈ Options.standard.kinds := by decide
  refine Tokens.mem_candidates (g := (.tag, [tag])) ?_ hkind (List.mem_singleton_self tag)
  simp [Tokens.allGroups, tag_tokens ht htag, hne]

omit hroot hplain in
/-- A chain of the element at the top is one segment. -/
theorem HasOwnTop.exists_segment_of_uniqueChain? {c : Chain}
    (hc : d.host.uniqueChain? o r = some c) : ∃ kinds ∈ o.levels,
      d.host.segment? o kinds r (d.host.tokens o r) = some c.render := by
  obtain ⟨kinds, hkinds, rfl⟩ := Host.exists_level_of_uniqueChain? hc
  have hlineage : d.host.tokenLineage o r = [(r, d.host.tokens o r)] := by
    rw [Host.tokenLineage, Tree.lineage_eq,
      Tree.ancestors_of_parentElement?_none (hd.parentElement?_top ht)]
    rfl
  have hne := (Host.isUnique_iff.1 (Host.isUnique_of_uniqueChain? hc)).1
  rw [hlineage, List.map_singleton] at hne ⊢
  dsimp only at hne ⊢
  refine ⟨kinds, hkinds, ?_⟩
  cases hs : d.host.segment? o kinds r (d.host.tokens o r) with
  | none =>
    rw [hs] at hne
    exact absurd rfl hne
  | some s => simp [Chain.render, Chain.renderFrom, Chain.Joint.text]

/-- **An answer for the element at the top is its mark, and finds nothing else.**  The answer is a
    chain of one segment, and of the elements that match it only the target is found. -/
theorem HasOwnTop.eq_of_mark (hsome : (d.host.shortestSelector? .standard r).isSome = true)
    (he : e ∈ d.elements) (hmark : Compound.matchesAt d.tree e [d.host.mark r] = true) : e = r := by
  rw [Host.shortestSelector?_eq_map, Option.isSome_map] at hsome
  obtain ⟨c, hc⟩ := Option.isSome_iff_exists.1 hsome
  obtain ⟨kinds, hkinds, hs⟩ := hd.exists_segment_of_uniqueChain? ht hc
  obtain ⟨-, hq⟩ := Host.isUnique_iff.1 (Host.isUnique_of_uniqueChain? hc)
  obtain ⟨x, hx, hfound⟩ := filterMatching_eq_ok_iff.1 hq
  rw [hd.parse_segment ht hroot hplain hkinds hs] at hx
  cases hx
  have hmem : e ∈ d.elements.filter fun i =>
      Selector.matchesAt d.tree i [[⟨none, [d.host.mark r]⟩]] := by
    rw [List.mem_filter, matchesAt_singleton]
    exact ⟨he, hmark⟩
  exact List.mem_singleton.1 (hfound ▸ hmem)

/-- A mark of its own singles the element at the top out. -/
theorem HasOwnTop.exists_segment_of_mark
    (hmark : ∀ e ∈ d.elements, Compound.matchesAt d.tree e [d.host.mark r] = true → e = r) :
    ∃ s, d.host.segment? .standard Options.standard.kinds r (d.host.tokens .standard r) = some s ∧
      d.SinglesOut r s := by
  have hlast : Options.standard.kinds ∈ Options.standard.levels := by decide
  obtain ⟨s, hs⟩ := hd.exists_segment_standard ht hroot
  refine ⟨s, hs, _, hd.parse_segment ht hroot hplain hlast hs, fun i hi _ => ⟨hmark i hi, ?_⟩⟩
  rintro rfl
  exact hd.matchesAt_segment ht hroot hplain hlast hs

end HasOwnTop

/-! ## Every element

  An element below a parent is singled out among its siblings by its place, whatever else it has.
  So all depends on the top. -/

/-- **The standard options find every attached element exactly if the mark of the element at the top
    is found at no other**, in a document of fewer than 2^31 nodes with plain names and with one
    element at the top, whose tag is its own. -/
theorem isSome_standard_iff (ht : d.tree.Reachable) (hroot : ¬ d.tree.Above Tree.root Tree.root)
    (hsize : d.tree.size < 2 ^ 31) (hd : d.HasOwnTop r)
    (hplain : ∀ e ∈ d.elements, d.host.hasPlainNames e = true) :
    (∀ e ∈ d.elements, (d.host.shortestSelector? .standard e).isSome = true) ↔
      ∀ e ∈ d.elements, Compound.matchesAt d.tree e [d.host.mark r] = true → e = r := by
  have hr := hd.mem_elements ht hroot
  constructor
  · intro hall e he hmark
    exact hd.eq_of_mark ht hroot (hplain r hr) (hall r hr) he hmark
  · intro hmark
    refine isSome_of_segments ht hroot (by decide) fun a ha => ?_
    by_cases har : a = r
    · rw [har]
      exact hd.exists_segment_of_mark ht hroot (hplain r hr) hmark
    · obtain ⟨p, hp⟩ := hd.parents a ha har
      exact exists_segment_of_nthChild ht hroot hsize (by decide) ha hp fun s hs x hx =>
        Host.exists_compound_of_names (hplain a ha) rfl hs (fun k hk => hk) hx

/-- A page with a dark theme; its layout is named with a class that cannot be written as it
    stands, and so is that of its body. -/
def darkPage : Document := Document.ofSteps
  [.edit (.element "html"), .edit (.append 0 1), .edit (.attribute 1 "class" "2col dark"),
   .edit (.element "body"), .edit (.append 1 2), .edit (.attribute 2 "class" "2col"),
   .edit (.element "p"), .edit (.append 2 3), .edit (.element "p"), .edit (.append 2 4), .finalize]

/-- The mark of the page is its second class, and no other element has that. -/
theorem isSome_standard_darkPage :
    darkPage.HasOwnTop 1 ∧ darkPage.host.mark 1 = .className "dark" ∧
    ∀ e ∈ darkPage.elements, (darkPage.host.shortestSelector? .standard e).isSome = true := by
  have hd : darkPage.HasOwnTop 1 := hasOwnTop_of_forall (by decide +kernel) (by decide +kernel)
    (by decide +kernel) (by decide +kernel) (by decide +kernel)
  have hacyclic : darkPage.tree.Acyclic := Tree.acyclic_of_parent?_lt (by decide +kernel)
  exact ⟨hd, by decide +kernel, (isSome_standard_iff (Tree.reachable_ofSteps _)
    (hacyclic Tree.root) (by decide +kernel) hd (by decide +kernel)).2 (by decide +kernel)⟩

/-- An element at the top that shares its id with the element in it. -/
def sharedId : Document := Document.ofSteps
  [.edit (.element "main"), .edit (.append 0 1), .edit (.attribute 1 "id" "x"),
   .edit (.element "div"), .edit (.append 1 2), .edit (.attribute 2 "id" "x"), .finalize]

/-- A tag of its own at the top is not enough: there the id is taken on every level, and it finds
    two elements. -/
theorem not_forall_isSome_standard :
    ¬ ∀ (d : Document) (r : NodeId), d.tree.Reachable → d.tree.Acyclic → d.tree.size < 2 ^ 31 →
      d.HasOwnTop r → (∀ e ∈ d.elements, d.host.hasPlainNames e = true) →
      ∀ e ∈ d.elements, (d.host.shortestSelector? .standard e).isSome = true := by
  intro hall
  have hd : sharedId.HasOwnTop 1 := hasOwnTop_of_forall (by decide +kernel) (by decide +kernel)
    (by decide +kernel) (by decide +kernel) (by decide +kernel)
  have hacyclic : sharedId.tree.Acyclic := Tree.acyclic_of_parent?_lt (by decide +kernel)
  have hsome := hall sharedId 1 (Tree.reachable_ofSteps _) hacyclic (by decide +kernel) hd
    (by decide +kernel) 1 (by decide +kernel)
  have hnone : sharedId.host.shortestSelector? .standard 1 = none := by decide +kernel
  rw [hnone] at hsome
  cases hsome

end Document

end Pinpoint
