/-
  Every candidate describes its own element.

  What is written for an element is read with other rules than it is written with: names are
  compared in lower case, an attribute is the first one of its name whatever its case, a place is
  counted anew.  All the same each token holds at the element it was taken from.

  1. The attribute of a token is the one that its name finds, where no two names of the element
     differ in case alone (`attribute?_of_mem`).
  2. **Each condition of a description holds at the element described** (`IsOf.matchesAt`), the tag,
     the id, the classes, the attributes and the place alike.
  3. So a candidate, if it can be read at all, is one compound that holds at its element
     (`error_or_holdsAt_of_mem_leafCandidates`).
-/
import Mathlib.Data.List.Nodup
import Pinpoint.Proofs.Search.ElementTree
import Pinpoint.Proofs.Search.Lineage

namespace Pinpoint

/-- Do the names of the attributes differ in more than case? -/
def Host.hasDistinctNames {E ε : Type} (h : Host E ε) (e : E) : Bool :=
  decide ((h.attributes e).map fun a => Ascii.lower a.1).Nodup

/-- Where no two items have the same key, a key finds its item. -/
theorem find?_key {α β : Type} [DecidableEq β] {key : α → β} {l : List α} {a : α}
    (hnd : (l.map key).Nodup) (ha : a ∈ l) : l.find? (fun b => key b == key a) = some a := by
  cases hfind : l.find? (fun b => key b == key a) with
  | none => exact absurd (beq_self_eq_true (key a)) (List.find?_eq_none.1 hfind a ha)
  | some b =>
    have hbeq : (key b == key a) = true := List.find?_some (p := fun b => key b == key a) hfind
    have hkey : key b = key a := beq_iff_eq.1 hbeq
    rw [List.inj_on_of_nodup_map hnd (List.mem_of_find?_eq_some hfind) ha hkey]

namespace Document

variable {d : Document} {e : NodeId} {data : Element}

/-! ## Tokens -/

/-- **The name of an attribute finds its value**, in whatever case it is written. -/
theorem attribute?_of_mem (hel : d.tree.element? e = some data)
    (hnames : d.host.hasDistinctNames e = true) {a : String × String}
    (ha : a ∈ d.host.attributes e) : d.tree.attribute? data (Ascii.lower a.1) = some a.2 := by
  have hshown : d.host.attributes e =
      data.attributes.map fun a => (d.tree.names.resolve a.name, a.value) := by
    show d.attributesOf e = _
    rw [attributesOf, hel]
  have hfind := find?_key (of_decide_eq_true hnames) ha
  rw [attribute?_eq_find?, ← hshown]
  simp only [Ascii.sameLetters, Ascii.lower_lower]
  rw [hfind, Option.map_some]

/-- The place that a host gives is the place that a condition asks for. -/
theorem siblingPosition_of_position {index count : Nat}
    (h : d.host.position e = some (index, count)) :
    d.tree.siblingPosition e = (index + 1, count) := by
  obtain ⟨p, hp, hplace⟩ := Option.bind_eq_some_iff.1 h
  refine siblingPosition_of_elementPosition? ?_
  rw [Tree.elementPosition?, (Tree.parent?_of_parentElement? hp).1]
  exact hplace

/-- **A place holds at the element that has it**, and its number need not even fit. -/
theorem place_matchesAt {index count : Nat} (h : d.host.position e = some (index, count)) :
    (Place.ofIndex index count).pseudoClass.matchesAt d.tree e = true := by
  have hplace := siblingPosition_of_position h
  unfold Place.ofIndex
  split
  · rename_i hfirst
    simp [Place.pseudoClass, PseudoClass.matchesAt, hplace, hfirst]
  · split
    · rename_i hlast
      simp [Place.pseudoClass, PseudoClass.matchesAt, hplace, hlast]
    · have hzero : (0 : Int32).toInt = 0 := by decide
      simp [Place.pseudoClass, PseudoClass.matchesAt, hplace, Nth.picks, hzero]

end Document

/-! ## Descriptions -/

/-- **A description of an element holds at it**, condition by condition. -/
theorem Description.IsOf.matchesAt {d : Document} {e : NodeId} {q : Description}
    (hq : q.IsOf d.host e) (hel : d.tree.isElement e = true)
    (hnames : d.host.hasDistinctNames e = true) : q.compound.matchesAt d.tree e = true := by
  obtain ⟨data, hdata⟩ := Option.isSome_iff_exists.1 hel
  have htag : d.host.tagName e = d.tree.names.resolve data.name := by
    simp [Document.host, Tree.tagName?, hdata]
  have hid : d.host.id e = data.id := by simp [Document.host, hdata]
  have hclasses : d.host.classes e = data.classes := by simp [Document.host, hdata]
  rw [Compound.matchesAt, hdata]
  refine List.all_eq_true.2 fun c hc => ?_
  -- a condition of the compound comes from the tag, the id, a class, an attribute or the place
  simp only [Description.compound, Description.conditions, List.mem_append, List.mem_map,
    Option.mem_toList] at hc
  rcases hc with (⟨w, hw, rfl⟩ | (⟨v, hv, rfl⟩ | ⟨v, hv, rfl⟩) | ⟨a, ha, rfl⟩) | ⟨p, hp, rfl⟩
  · obtain ⟨rfl, -⟩ := hq.tag w hw
    rw [Component.matchesAt, Ascii.sameLetters, htag, Ascii.lower_lower, beq_self_eq_true]
  · rw [Component.matchesAt, ← hid, hq.id v hv, beq_self_eq_true]
  · rw [Component.matchesAt, Element.hasClass, ← hclasses]
    exact List.contains_iff_mem.2 (hq.classes v hv)
  · rw [Component.matchesAt, Document.attribute?_of_mem hdata hnames (hq.attributes a ha)]
    simp [AttributeTest.accepts, Comparison.needsText, Comparison.holds, AttributeTest.form]
  · obtain ⟨index, count, hposition, rfl⟩ := hq.place p hp
    exact Document.place_matchesAt hposition

/-! ## Candidates -/

namespace Document

variable {d : Document} {o : Options} {e : NodeId} {kinds : List Kind} {s : Segment}

/-- A candidate is the text of a plain description whose compound holds at the element. -/
theorem exists_description_matchesAt (hel : d.tree.isElement e = true)
    (hplain : d.host.isPlain e = true) (hnames : d.host.hasDistinctNames e = true)
    (hkinds : ∀ k ∈ kinds, k ∈ o.kinds) (hs : s ∈ (d.host.tokens o e).candidates o kinds) :
    ∃ q : Description, q.IsPlain ∧ s = q.text ∧ q.compound.matchesAt d.tree e = true := by
  obtain ⟨q, hq, -, htext⟩ := Host.exists_description hkinds hs
  exact ⟨q, Host.isPlain_of_isOf hq hplain, htext, hq.matchesAt hel hnames⟩

/-- **Every candidate describes its own element.**  Where an element is plain, and the names of its
    attributes differ in more than case, each of its candidates is refused as a selector or is read
    as one compound, and this compound holds at the element. -/
theorem error_or_holdsAt_of_mem_leafCandidates (hel : d.tree.isElement e = true)
    (hplain : d.host.isPlain e = true) (hnames : d.host.hasDistinctNames e = true)
    (hs : s ∈ d.host.leafCandidates o e) :
    (∃ err, Selector.parse s = .error err) ∨ s.HoldsAt d.tree e := by
  obtain ⟨q, hq, rfl, hmatch⟩ :=
    exists_description_matchesAt hel hplain hnames (fun _ hk => hk) hs
  cases hparse : Selector.parse q.text with
  | error err => exact Or.inl ⟨err, rfl⟩
  | ok y =>
    obtain ⟨rfl, -⟩ := hq.parse_text (Host.ne_empty_of_mem_candidates hs) hparse
    exact Or.inr ⟨_, hparse, hmatch⟩

/-- A paragraph with a class that no selector can name, and an attribute in capitals. -/
def loudParagraph : Document := Document.ofSteps
  [.edit (.element "p"), .edit (.append 0 1), .edit (.attribute 1 "class" "2x on"),
   .edit (.attribute 1 "TITLE" "a > b"), .finalize]

/-- The attribute may be used. -/
def loudOptions : Options :=
  (Settings.options ⟨none, some ["^T"], none, none⟩).toOption.getD .standard

/-- The one class is refused, and the attribute is found in small letters. -/
theorem error_or_holdsAt_of_mem_leafCandidates_loud :
    ".2x" ∈ loudParagraph.host.leafCandidates loudOptions 1 ∧
    (∃ err, Selector.parse ".2x" = .error err) ∧
    "p.on[TITLE=\"a > b\"]" ∈ loudParagraph.host.leafCandidates loudOptions 1 ∧
    Segment.HoldsAt loudParagraph.tree 1 "p.on[TITLE=\"a > b\"]" := by
  have hcandidates : ".2x" ∈ loudParagraph.host.leafCandidates loudOptions 1 ∧
      "p.on[TITLE=\"a > b\"]" ∈ loudParagraph.host.leafCandidates loudOptions 1 := by decide +kernel
  have hrefused : Selector.parse ".2x" = .error (.invalidIdentifier "2x") := by decide +kernel
  have hread : ∃ y, Selector.parse "p.on[TITLE=\"a > b\"]" = .ok y := ⟨[[⟨none, [.tag "p",
    .className "on", .attribute ⟨"title", some (.equals, "a > b"), false⟩]⟩]], by decide +kernel⟩
  have hholds := error_or_holdsAt_of_mem_leafCandidates (d := loudParagraph) (by decide +kernel)
    (by decide +kernel) (by decide +kernel) hcandidates.2
  refine ⟨hcandidates.1, ⟨_, hrefused⟩, hcandidates.2, hholds.resolve_left ?_⟩
  rintro ⟨err, herr⟩
  obtain ⟨y, hy⟩ := hread
  rw [hy] at herr
  cases herr

end Document

end Pinpoint
