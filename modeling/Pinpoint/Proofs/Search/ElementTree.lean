/-
  Only the element tree matters to a search.

  1. What a selector sees: **of conditions, only `:empty` looks past the elements**.  Every other
     selector matches an element exactly if it matches its counterpart in a document with the same
     elements (`SameElements.matchesAt_eq`).
  2. What the answers of the two documents have in common, for chains of segments in plain words.
  3. **So plain documents with the same elements have the same answers** (`answers_eq`).
-/
import Pinpoint.Proofs.Document.Elements
import Pinpoint.Proofs.Search.Mirror

namespace Pinpoint

/-! ## What a compound sees

  Tags, ids, classes and attributes are data of the element itself.  Of the conditions, those on
  places count element siblings, and `:root` looks for a parent element. -/

/-- No condition of the compound asks whether an element is empty.  Text with content keeps an
    element from being so, which makes this the one condition that looks at other nodes than
    elements. -/
def Compound.SeesElements (k : Compound) : Prop := Component.pseudo .empty ∉ k

/-- The compounds of a search do not ask whether an element is empty: of conditions they use those
    on places alone. -/
theorem Compound.AllowedBy.seesElements {k : Compound} {o : Options} (hk : k.AllowedBy o) :
    k.SeesElements := by
  obtain ⟨q, -, -, rfl⟩ := hk
  intro hmem
  simp only [Description.compound, Description.conditions, List.mem_append, List.mem_map,
    Component.pseudo.injEq, reduceCtorEq, and_false, exists_false, false_or] at hmem
  obtain ⟨p, -, hp⟩ := hmem
  cases p <;> cases hp

namespace Document

/-- The attribute that a name finds, from names and values as a host gives them. -/
theorem attribute?_eq_find? (t : Tree) (e : Element) (name : String) :
    t.attribute? e name = ((e.attributes.map fun a => (t.names.resolve a.name, a.value)).find?
      fun a => Ascii.sameLetters a.1 name).map (·.2) := by
  rw [Tree.attribute?, List.find?_map, Option.map_map]
  rfl

variable {d d' : Document} {f : NodeId → NodeId} {i : NodeId} {o : Options} {s : Segment}
  {c : Chain}

namespace SameElements

variable (h : d.SameElements d' f) (hd : d.Nested) (hd' : d'.Nested)
include h hd hd'

/-! ## Matching

  Counterparts are compared from the right end of a selector on: the last compound at the elements
  themselves, the rest at their ancestors. -/

/-- A condition other than `:empty` asks about the parent element or about the place among the
    element siblings. -/
theorem pseudoClass_matchesAt_eq (hi : i ∈ d.elements) {p : PseudoClass} (hp : p ≠ .empty) :
    p.matchesAt d'.tree (f i) = p.matchesAt d.tree i := by
  have hposition : d'.tree.siblingPosition (f i) = d.tree.siblingPosition i := by
    rw [Tree.siblingPosition, Tree.siblingPosition, h.elementPosition?_eq hd hd' hi]
  cases p with
  | empty => exact absurd rfl hp
  | root =>
    have hparent : d'.tree.parentElement? (f i) = (d.tree.parentElement? i).map f := h.parent i hi
    rw [PseudoClass.matchesAt, PseudoClass.matchesAt, hparent, Option.isNone_map]
  | firstChild => rw [PseudoClass.matchesAt, PseudoClass.matchesAt, hposition]
  | lastChild => rw [PseudoClass.matchesAt, PseudoClass.matchesAt, hposition]
  | onlyChild => rw [PseudoClass.matchesAt, PseudoClass.matchesAt, hposition]
  | nthChild e => rw [PseudoClass.matchesAt, PseudoClass.matchesAt, hposition]
  | nthLastChild e => rw [PseudoClass.matchesAt, PseudoClass.matchesAt, hposition]

/-- **A compound that sees elements alone holds at an element if it holds at its counterpart.** -/
theorem compound_matchesAt_eq (hi : i ∈ d.elements) {k : Compound} (hk : k.SeesElements) :
    k.matchesAt d'.tree (f i) = k.matchesAt d.tree i := by
  have hi' := h.mem_elements hd hd' hi
  obtain ⟨e, he⟩ := Option.isSome_iff_exists.1 (hd.isElement_of_mem hi)
  obtain ⟨e', he'⟩ := Option.isSome_iff_exists.1 (hd'.isElement_of_mem hi')
  -- the data of both elements, as the hosts give it
  have htag : d'.tree.names.resolve e'.name = d.tree.names.resolve e.name := by
    simpa [host, Tree.tagName?, he, he'] using h.tagName i hi
  have hid : e'.id = e.id := by simpa [host, he, he'] using h.id i hi
  have hclasses : e'.classes = e.classes := by simpa [host, he, he'] using h.classes i hi
  have hattributes : e'.attributes.map (fun a => (d'.tree.names.resolve a.name, a.value)) =
      e.attributes.map fun a => (d.tree.names.resolve a.name, a.value) := by
    simpa [host, attributesOf, he, he'] using h.attributes i hi
  have hcomponent : ∀ c ∈ k, c.matchesAt d'.tree (f i) e' = c.matchesAt d.tree i e := by
    intro c hc
    cases c with
    | universal => rfl
    | tag name => rw [Component.matchesAt, Component.matchesAt, htag]
    | id value => rw [Component.matchesAt, Component.matchesAt, hid]
    | className value =>
      rw [Component.matchesAt, Component.matchesAt, Element.hasClass, Element.hasClass, hclasses]
    | «attribute» test =>
      rw [Component.matchesAt, Component.matchesAt, attribute?_eq_find?, attribute?_eq_find?,
        hattributes]
    | pseudo p =>
      refine h.pseudoClass_matchesAt_eq hd hd' hi ?_
      rintro rfl
      exact hk hc
  rw [Compound.matchesAt, Compound.matchesAt, he, he']
  exact all_congr_of_mem hcomponent

/-- Parts from right to left match alike, by going up alike.  The ancestors of a counterpart are the
    counterparts of the ancestors, and these are attached as well, so the induction goes on with
    them. -/
theorem matchesLeftward_eq {parts : List Part} (hparts : ∀ p ∈ parts, p.compound.SeesElements)
    (hi : i ∈ d.elements) :
    matchesLeftward d'.tree parts (f i) = matchesLeftward d.tree parts i := by
  induction parts generalizing i with
  | nil => rfl
  | cons p left ih =>
    obtain ⟨hp, hleft⟩ := List.forall_mem_cons.1 hparts
    have hcompound := h.compound_matchesAt_eq hd hd' hi hp
    cases left with
    | nil => exact hcompound
    | cons q left =>
      rw [matchesLeftward, matchesLeftward, hcompound]
      congr 1
      cases p.combinator.getD .descendant with
      | child =>
        have hparent : d'.tree.parentElement? (f i) = (d.tree.parentElement? i).map f :=
          h.parent i hi
        dsimp only
        rw [hparent]
        cases hp : d.tree.parentElement? i with
        | none => rfl
        | some a => exact ih hleft (hd.mem_of_parent hi a hp)
      -- the ancestors of a counterpart are counterparts, and the induction holds at each of them
      | descendant =>
        dsimp only
        rw [h.ancestors_eq hd hd' hi, List.any_map]
        exact any_congr_of_mem fun a ha =>
          ih hleft (hd.reachable.mem_descendants_of_mem_ancestors hi ha)

/-- **An alternative that sees elements alone matches an element if it matches its counterpart.** -/
theorem matchesAt_eq {x : Complex} (hx : ∀ p ∈ x, p.compound.SeesElements) (hi : i ∈ d.elements) :
    Selector.matchesAt d'.tree (f i) [x] = Selector.matchesAt d.tree i [x] := by
  have hleftward := h.matchesLeftward_eq hd hd'
    (fun p hp => hx p (List.mem_reverse.1 hp)) hi
  simpa [Selector.matchesAt, Complex.matchesAt] using hleftward

/-! ## Answers

  The search sees a document through its host alone.  So it is enough that the hosts mirror each
  other, and then the general theorem on mirrored hosts gives the answers. -/

/-- A selector of one alternative finds counterparts among counterparts.  The text is read before
    any node is looked at, so where one document reports an error, so does the other. -/
theorem sameFound {nodes : List NodeId} {scope scope' : Scope NodeId}
    (hnodes : ∀ i ∈ nodes, i ∈ d.elements)
    (hscope : d.host.query s scope = d.filterMatching nodes s)
    (hscope' : d'.host.query s scope' = d'.filterMatching (nodes.map f) s)
    (hs : ∀ y, Selector.parse s = .ok y →
      ∃ x, y = [x] ∧ ∀ p ∈ x, p.compound.SeesElements) :
    Host.SameFound f {i | i ∈ d.elements} (d.host.found? s scope) (d'.host.found? s scope') := by
  rw [Host.found?, Host.found?, hscope, hscope', filterMatching, filterMatching]
  split
  · exact ⟨rfl, fun l hl => by cases hl⟩
  · cases hy : Selector.parse s with
    | error e => exact ⟨rfl, fun l hl => by cases hl⟩
    | ok y =>
      obtain ⟨x, rfl, hx⟩ := hs y hy
      refine ⟨?_, fun l hl b hb => ?_⟩
      · show some ((nodes.map f).filter _) = some ((nodes.filter _).map f)
        rw [List.filter_map, Option.some_inj]
        congr 1
        exact List.filter_congr fun i hi =>
          h.matchesAt_eq hd hd' hx (hnodes i hi)
      · cases hl
        exact hnodes b (List.mem_filter.1 hb).1

omit hd' in
/-- An element and its counterpart have the same tokens, as these come from its own data and its
    place. -/
theorem tokens_eq (hi : i ∈ d.elements) : d'.host.tokens o (f i) = d.host.tokens o i := by
  rw [Host.tokens, Host.tokens, h.id i hi, h.tagName i hi, h.classes i hi, h.attributes i hi,
    h.position_eq hd hi]

/-- **The document answers a search in plain words as its counterpart does.**  Whatever the search
    asks the host for, data, lineage, siblings or the answer to a selector of its own making, is the
    same up to the names of the nodes. -/
theorem mirrors (hplain : d.isPlain = true) (o : Options) :
    Host.Mirrors d.host d'.host o f {i | i ∈ d.elements} (Chain.IsWorded o) where
  injective := h.injOn
  tokens i hi := h.tokens_eq hd hi
  lineage i hi := by
    rw [Tree.lineage_eq, Tree.lineage_eq, h.ancestors_eq hd hd' hi,
      List.map_cons]
  lineage_asked i hi a ha := by
    rw [Tree.lineage_eq] at ha
    rcases List.mem_cons.1 ha with rfl | ha
    · exact hi
    · exact hd.reachable.mem_descendants_of_mem_ancestors hi ha
  candidates i hi kinds hkinds s hs :=
    Host.isWorded_of_mem_candidates (isPlain_of_mem hplain hi) hkinds hs
  document c hc := by
    refine h.sameFound hd hd' (fun i hi => hi) rfl ?_ fun y hy => ?_
    · rw [← h.elements_eq hd hd']
      rfl
    · obtain ⟨x, rfl, hx⟩ := Chain.parse_render_of_isWorded hc hy
      exact ⟨x, rfl, fun p hp => (hx p hp).seesElements⟩
  siblings i s hi hs := by
    have hattached : ∀ k ∈ d.host.children (d.host.parent i), k ∈ d.elements := fun _ hk =>
      hd.mem_of_mem_children (hd.mem_of_parent hi) hk
    refine h.sameFound hd hd' hattached rfl ?_ fun y hy => ?_
    · rw [← h.siblings_eq hd hi]
      rfl
    · obtain ⟨k, rfl, hk⟩ := hs.parse hy
      exact ⟨_, rfl, List.forall_mem_singleton.2 hk.seesElements⟩

/-- **Only the element tree matters**: two plain documents with the same elements give the same
    answers, for one element and for several, whatever else hangs between the elements and however
    the nodes are numbered. -/
theorem answers_eq (hplain : d.isPlain = true) (o : Options) :
    (∀ i ∈ d.elements, d'.host.shortestSelector? o (f i) = d.host.shortestSelector? o i) ∧
    ∀ targets : List NodeId, (∀ i ∈ targets, i ∈ d.elements) →
      d'.host.commonSelector? o (targets.map f) = d.host.commonSelector? o targets := by
  have m := h.mirrors hd hd' hplain o
  exact ⟨fun _ hi => m.shortestSelector?_eq hi, fun _ ht => m.commonSelector?_eq ht⟩

end SameElements

/-- The marked list made in another order, with a comment before it, text in it, and a paragraph
    that hangs nowhere. -/
def remadeList : Document := Document.ofSteps
  [.edit (.element "li"), .edit (.attribute 1 "class" "on"), .edit (.comment "the list"),
   .edit (.append 0 2), .edit (.element "li"), .edit (.element "ul"), .edit (.append 0 4),
   .edit (.text "items"), .edit (.append 4 5), .edit (.append 4 3), .edit (.append 4 1),
   .edit (.element "p"), .edit (.element "li"), .edit (.append 4 7), .finalize]

/-- The names that the nodes of the marked list have in it. -/
def remade (i : NodeId) : NodeId := [0, 4, 3, 1, 7].getD i 0

/-- The marked item is found in both, and so are the other two. -/
theorem answers_eq_remadeList :
    Host.markedList.SameElements remadeList remade ∧ Host.markedList.Nested ∧ remadeList.Nested ∧
    Host.markedList.isPlain = true ∧
    Host.markedList.elements = [1, 2, 3, 4] ∧ remadeList.elements = [4, 3, 1, 7] ∧
    remadeList.host.shortestSelector? .standard 1 =
      Host.markedList.host.shortestSelector? .standard 3 ∧
    remadeList.host.commonSelector? .standard [7, 3] =
      Host.markedList.host.commonSelector? .standard [4, 2] := by
  have hsame : Host.markedList.SameElements remadeList remade := by
    have hinj : ∀ i ∈ Host.markedList.elements, ∀ j ∈ Host.markedList.elements,
        remade i = remade j → i = j := by decide +kernel
    exact ⟨fun i hi j hj => hinj i hi j hj, by decide +kernel, by decide +kernel,
      by decide +kernel, by decide +kernel, by decide +kernel, by decide +kernel,
      by decide +kernel⟩
  have hparents : ∀ i ∈ Host.markedList.elements,
      Host.markedList.tree.parent? i = some Tree.root ∨
        (Host.markedList.tree.parentElement? i).isSome = true := by decide +kernel
  have hparents' : ∀ i ∈ remadeList.elements, remadeList.tree.parent? i = some Tree.root ∨
      (remadeList.tree.parentElement? i).isSome = true := by decide +kernel
  have hd : Host.markedList.Nested := nested_of_forall (Tree.reachable_ofSteps _)
    (by decide +kernel) hparents
  have hd' : remadeList.Nested := nested_of_forall (Tree.reachable_ofSteps _)
    (by decide +kernel) hparents'
  have hplain : Host.markedList.isPlain = true := by decide +kernel
  have hel : Host.markedList.elements = [1, 2, 3, 4] := by decide +kernel
  obtain ⟨hone, hcommon⟩ := hsame.answers_eq hd hd' hplain .standard
  exact ⟨hsame, hd, hd', hplain, hel, by decide +kernel, hone 3 (by rw [hel]; decide),
    hcommon [4, 2] (by rw [hel]; decide)⟩

end Document

end Pinpoint
