/-
  The landmarks of a document, after any history.

  A document is finalized again and again while its tree grows, and a head and a body once found stay.
  They are never out of date for all that, because a tree grows in one way only.

  1. **Specification**: the first child with a tag, said of the list of children and not of a search
     (`FirstChildTagged`).  There is one answer, and the search gives it.
  2. **What an edit leaves**: the children of a node stay in their order with new ones behind them, and
     a tag stays.  So the first child with a tag, once there is one, remains the first.
  3. **The invariant** (`Settled`): what has been found is what would be found now.  Every step keeps
     it; an edit by 2, a new search because what it keeps is what it would find.
  4. **So, right after a search, all three landmarks are those of the tree as it stands**
     (`current_of_finalize`).
-/
import Pinpoint.Proofs.Document.Attributes

namespace Pinpoint

/-- Children of a node are only added, at the end.  No edit takes a node out of a list. -/
theorem ChildLists.children_prefix_apply (m : ChildLists) (p : NodeId) (e : Edit) :
    m.children p <+: (m.apply e).children p := by
  -- a new node is in no list yet
  have hadd : m.children p <+: m.addNode.children p :=
    (m.children_addNode p).symm ▸ List.prefix_refl _
  rcases e with tag | value | value | name | ⟨node, name, value⟩ | ⟨parent, child⟩
  · exact hadd
  · exact hadd
  · exact hadd
  · exact hadd
  · exact List.prefix_refl _
  · show m.children p <+: (m.append parent child).children p
    by_cases h : parent ≠ child ∧ parent < m.size ∧ child < m.size ∧ m.isPlaced child = false
    · rw [children_append h.1 h.2.1 h.2.2.1 h.2.2.2]
      split
      · rename_i hp
        rw [hp]
        exact List.prefix_append _ _
      · exact List.prefix_refl _
    · have hsame : m.append parent child = m := by rw [append, if_neg h]
      exact hsame.symm ▸ List.prefix_refl _

namespace Tree

variable {t : Tree} {p c x : NodeId} {tag : String} {found found' : Option NodeId}

/-! ## The first child with a tag

  What a landmark is, apart from any search. -/

/-- What has been found is the first child of `p` that is an element with this tag; if nothing has
    been found, there is no such child.  Children that are no elements may come before it. -/
def FirstChildTagged (t : Tree) (p : NodeId) (tag : String) : Option NodeId → Prop
  | none => ∀ c ∈ t.children p, t.tagName? c ≠ some tag
  | some c => ∃ earlier later, t.children p = earlier ++ c :: later ∧ t.tagName? c = some tag ∧
      ∀ x ∈ earlier, t.tagName? x ≠ some tag

/-- A node with a tag is an element. -/
theorem isElement_of_tagName? (h : t.tagName? c = some tag) : t.isElement c = true := by
  obtain ⟨e, he, -⟩ := Option.map_eq_some_iff.1 h
  rw [isElement, he]
  rfl

/-- The search looks at element children; among all children the same node is found, as only
    elements have tags. -/
theorem firstTagged_elementChildren (t : Tree) (tag : String) (p : NodeId) :
    Document.firstTagged t tag (t.elementChildren p) =
      (t.children p).find? fun i => t.tagName? i == some tag := by
  rw [Document.firstTagged, elementChildren, List.find?_filter]
  congr 1
  funext i
  cases htag : t.tagName? i == some tag with
  | false => simp
  | true => simp [isElement_of_tagName? (beq_iff_eq.1 htag)]

/-- **The search finds the first child with the tag**, and nothing if there is none. -/
theorem firstChildTagged_firstTagged (t : Tree) (tag : String) (p : NodeId) :
    t.FirstChildTagged p tag (Document.firstTagged t tag (t.elementChildren p)) := by
  rw [firstTagged_elementChildren]
  cases hfind : (t.children p).find? fun i => t.tagName? i == some tag with
  | none =>
    intro c hc heq
    have hno := List.find?_eq_none.1 hfind c hc
    rw [heq] at hno
    exact hno (beq_self_eq_true _)
  | some c =>
    obtain ⟨htag, earlier, later, hsplit, hno⟩ := List.find?_eq_some_iff_append.1 hfind
    refine ⟨earlier, later, hsplit, beq_iff_eq.1 htag, fun x hx heq => ?_⟩
    have hx := hno x hx
    rw [heq, beq_self_eq_true] at hx
    cases hx

/-- The tag and the children leave no choice: whoever fits the specification is what the search
    finds. -/
theorem FirstChildTagged.firstTagged_eq (h : t.FirstChildTagged p tag found) :
    Document.firstTagged t tag (t.elementChildren p) = found := by
  rw [firstTagged_elementChildren]
  cases found with
  | none =>
    rw [List.find?_eq_none]
    intro c hc htag
    exact h c hc (beq_iff_eq.1 htag)
  | some c =>
    obtain ⟨earlier, later, hsplit, htag, hno⟩ := h
    rw [List.find?_eq_some_iff_append]
    refine ⟨beq_iff_eq.2 htag, earlier, later, hsplit, fun x hx => ?_⟩
    rw [Bool.not_eq_true', beq_eq_false_iff_ne]
    exact hno x hx

/-! ## What an edit leaves

  Two things are needed of edits: tags stay, and children stay in their order. -/

/-- The place of the tag among what a node holds. -/
def Content.tagId? : Content → Option NameId
  | .element e => some e.name
  | _ => none

/-- A tag is read from the place that the node holds and from the table. -/
theorem tagName?_eq (t : Tree) (i : NodeId) :
    t.tagName? i = ((t.content? i).bind Content.tagId?).map t.names.resolve := by
  unfold tagName? element? content? Node.element?
  cases t.node? i with
  | none => rfl
  | some n => cases hn : n.content <;> simp [hn, Content.tagId?]

/-- Setting an attribute leaves the place of the tag. -/
theorem tagId?_withAttribute (name : NameId) (spelling value : String) (c : Content) :
    Content.tagId? (Content.withAttribute name spelling value c) = Content.tagId? c := by
  cases c <;> rfl

/-- An edit changes no tag of a node that is there. -/
theorem tagId?_apply (hi : c < t.size) (ed : Edit) :
    ((t.apply ed).content? c).bind Content.tagId? = (t.content? c).bind Content.tagId? := by
  have hpush : ∀ (after : Tree) {n : Node}, after.nodes = t.nodes.push n →
      after.content? c = t.content? c := by
    intro after n h
    rw [content?_of_push h, if_neg (Nat.ne_of_lt hi)]
  rcases ed with tag | value | value | name | ⟨node, name, value⟩ | ⟨parent, child⟩
  · rw [hpush (t.apply (.element tag)) rfl]
  · rw [hpush (t.apply (.text value)) rfl]
  · rw [hpush (t.apply (.comment value)) rfl]
  · rw [hpush (t.apply (.doctype name)) rfl]
  · show ((t.setAttribute node name value).content? c).bind _ = _
    rw [content?_setAttribute]
    split
    · cases t.content? c with
      | none => rfl
      | some k => exact tagId?_withAttribute _ _ _ k
    · rfl
  · show ((t.append parent child).content? c).bind _ = _
    rw [content?_append]

/-- **A node that is there keeps its tag.** -/
theorem Reachable.tagName?_apply (ht : t.Reachable) (hc : c < t.size) (ed : Edit) :
    (t.apply ed).tagName? c = t.tagName? c := by
  rw [tagName?_eq, tagName?_eq, tagId?_apply hc]
  cases htag : (t.content? c).bind Content.tagId? with
  | none => rfl
  | some name =>
    obtain ⟨k, hk, hname⟩ := Option.bind_eq_some_iff.1 htag
    cases k with
    | element e =>
      cases hname
      have hlt := ht.named.name_lt c e (element?_eq_some_iff.2 hk)
      exact congrArg some (NameTable.resolve_of_prefix (names_prefix_apply t ed) hlt)
    | _ => cases hname

/-- **New children come behind those that are there.** -/
theorem Reachable.children_prefix_apply (ht : t.Reachable) (p : NodeId) (ed : Edit) :
    t.children p <+: (t.apply ed).children p := by
  obtain ⟨m, hm⟩ := ht.agrees
  rw [hm.children_eq, (hm.apply ed).children_eq]
  exact m.children_prefix_apply p ed

/-- The first child with a tag, once there is one, remains the first. -/
theorem Reachable.firstChildTagged_apply (ht : t.Reachable)
    (h : t.FirstChildTagged p tag (some c)) (ed : Edit) :
    (t.apply ed).FirstChildTagged p tag (some c) := by
  obtain ⟨earlier, later, hsplit, htag, hno⟩ := h
  obtain ⟨more, hmore⟩ := ht.children_prefix_apply p ed
  have hthere : ∀ x ∈ t.children p, x < t.size := fun x hx =>
    (ht.lt_size_of_parent? (ht.mem_children_iff.1 hx)).2
  refine ⟨earlier, later ++ more, ?_, ?_, fun x hx => ?_⟩
  · rw [← hmore, hsplit, List.append_assoc, List.cons_append]
  · rw [ht.tagName?_apply (hthere c (by rw [hsplit]; simp)) ed]
    exact htag
  · rw [ht.tagName?_apply (hthere x (by rw [hsplit]; simp [hx])) ed]
    exact hno x hx

end Tree

namespace Document

variable {d : Document}

/-! ## What has been found

  A document remembers three nodes.  The invariant says of each of them that it is no older than the
  tree. -/

/-- What has been found below the `html` element is the first child there with this tag; nothing is said
    if nothing has been found. -/
def FoundInside (d : Document) (tag : String) (found : Option NodeId) : Prop :=
  ∀ x, found = some x → ∃ h, d.html = some h ∧ d.tree.FirstChildTagged h tag (some x)

/-- What has been found is what would be found now.  Nothing is said where nothing has been found,
    since elements may have been hung after the search. -/
structure Settled (d : Document) : Prop where
  html : ∀ h, d.html = some h → d.tree.FirstChildTagged Tree.root "html" (some h)
  head : d.FoundInside "head" d.head
  body : d.FoundInside "body" d.body

/-- The landmarks are those of the tree as it stands: the first `html` element at the top, and the
    first head and the first body in it.  Without an `html` element there is neither. -/
structure Current (d : Document) : Prop where
  html : d.tree.FirstChildTagged Tree.root "html" d.html
  inside : ∀ h, d.html = some h →
    d.tree.FirstChildTagged h "head" d.head ∧ d.tree.FirstChildTagged h "body" d.body
  outside : d.html = none → d.head = none ∧ d.body = none

namespace FoundInside

variable {tag : String} {found : Option NodeId} {html : NodeId}

/-- An edit leaves what has been found: the `html` element is not searched for anew, and its first
    child with the tag stays. -/
theorem edit (h : d.FoundInside tag found) (ht : d.tree.Reachable) (e : Edit) :
    (d.apply (.edit e)).FoundInside tag found := by
  intro x hx
  obtain ⟨i, hi, hfirst⟩ := h x hx
  exact ⟨i, hi, ht.firstChildTagged_apply hfirst e⟩

/-- Nothing is found below an element that has not been found. -/
theorem eq_none (h : d.FoundInside tag found) (hhtml : d.html = none) : found = none := by
  cases found with
  | none => rfl
  | some x =>
    obtain ⟨i, hi, -⟩ := h x rfl
    rw [hhtml] at hi
    cases hi

/-- What is kept of an earlier search is what a new one finds.  So keeping it saves the search and
    changes no answer. -/
theorem or_eq (h : d.FoundInside tag found) (hhtml : ∀ i, d.html = some i → i = html) :
    found.or (firstTagged d.tree tag (d.tree.elementChildren html)) =
      firstTagged d.tree tag (d.tree.elementChildren html) := by
  cases found with
  | none => rfl
  | some x =>
    obtain ⟨i, hi, hfirst⟩ := h x rfl
    rw [← hhtml i hi, hfirst.firstTagged_eq]
    rfl

/-- What is current has been found, or there is nothing. -/
theorem of_current {kept : Option NodeId}
    (hinside : ∀ h, d.html = some h → d.tree.FirstChildTagged h tag kept)
    (houtside : d.html = none → kept = none) : d.FoundInside tag kept := by
  intro x hx
  cases hhtml : d.html with
  | none =>
    rw [houtside hhtml] at hx
    cases hx
  | some i => exact ⟨i, rfl, hx ▸ hinside i hhtml⟩

end FoundInside

/-- At the start nothing has been found. -/
theorem settled_empty : Settled empty where
  html h hh := by cases hh
  head x hx := by cases hx
  body x hx := by cases hx

/-- **The step of an edit.** -/
theorem Settled.edit (h : d.Settled) (ht : d.tree.Reachable) (e : Edit) :
    (d.apply (.edit e)).Settled where
  html i hi := ht.firstChildTagged_apply (h.html i hi) e
  head := h.head.edit ht e
  body := h.body.edit ht e

/-- **The step of a search**: it finds all landmarks anew, whatever an earlier one has left.  The
    `html` element is searched for each time; a head and a body that are known are kept, and they
    are those below this element. -/
theorem Settled.current_finalize (h : d.Settled) : d.finalize.Current := by
  have htop := Tree.firstChildTagged_firstTagged d.tree "html" Tree.root
  -- an `html` element found before is the one found now
  have hsame : ∀ i, d.html = some i →
      firstTagged d.tree "html" (d.tree.elementChildren Tree.root) = some i := by
    intro i hi
    exact (h.html i hi).firstTagged_eq
  unfold finalize
  cases hnow : firstTagged d.tree "html" (d.tree.elementChildren Tree.root) with
  | none =>
    rw [hnow] at htop hsame
    have hhtml : d.html = none := by
      cases hd : d.html with
      | none => rfl
      | some i => cases hsame i hd
    refine ⟨htop, fun i hi => ?_, fun _ => ⟨h.head.eq_none hhtml, h.body.eq_none hhtml⟩⟩
    cases hi
  | some html =>
    rw [hnow] at htop hsame
    have hhtml : ∀ i, d.html = some i → i = html := by
      intro i hi
      exact (Option.some.inj (hsame i hi)).symm
    refine ⟨htop, fun i hi => ?_, fun hnone => ?_⟩
    · cases hi
      dsimp only
      rw [h.head.or_eq hhtml, h.body.or_eq hhtml]
      exact ⟨d.tree.firstChildTagged_firstTagged "head" html,
        d.tree.firstChildTagged_firstTagged "body" html⟩
    · cases hnone

/-- What is current has been found in the tree as it stands. -/
theorem Current.settled (h : d.Current) : d.Settled where
  html _ hi := hi ▸ h.html
  head := .of_current (fun i hi => (h.inside i hi).1) fun hnone => (h.outside hnone).1
  body := .of_current (fun i hi => (h.inside i hi).2) fun hnone => (h.outside hnone).2

/-- **The run**: after any steps, what has been found is what would be found now.  By induction on
    the steps, from their end. -/
theorem settled_ofSteps (steps : List Step) : (ofSteps steps).Settled := by
  induction steps using List.reverseRecOn with
  | nil => exact settled_empty
  | append_singleton steps s ih =>
    rw [ofSteps_concat]
    cases s with
    | edit e => exact ih.edit (Tree.reachable_ofSteps steps) e
    | finalize => exact ih.current_finalize.settled

/-- **Right after a search the landmarks are those of the tree as it stands**, whatever edits and
    searches came before, in any order. -/
theorem current_of_finalize (steps : List Step) : (ofSteps (steps ++ [.finalize])).Current := by
  rw [ofSteps_concat]
  exact (settled_ofSteps steps).current_finalize

/-- A second `html` element changes nothing, and a body may be found later than the head. -/
example :
    let d := ofSteps [.finalize, .edit (.element "html"), .edit (.append 0 1),
      .edit (.element "head"), .edit (.append 1 2), .finalize, .edit (.element "body"),
      .edit (.append 1 3), .edit (.element "html"), .edit (.append 0 4), .finalize]
    d.html = some 1 ∧ d.head = some 2 ∧ d.body = some 3 := by decide

end Document

end Pinpoint
