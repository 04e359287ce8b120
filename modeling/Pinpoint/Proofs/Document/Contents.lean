/-
  What the nodes of a tree in use hold.

  1. Names: a name that has been given a place keeps it, whatever is entered later.
  2. Contents: hanging a node changes no content, an attribute changes neither the kind nor the
     name of its node, and a new node takes nothing from another.
  3. **So, after any edits**, node 0 is the document node and no element, every element has a name
     that the table knows, and every tag is in lower case (`Named`).
-/
import Pinpoint.Proofs.Document.Links

namespace Pinpoint

/-! ## Names

  A table lists its names in the order in which they came, and a name is known by its place. -/

namespace NameTable

variable {t t' : NameTable} {i : NameId} {name : String}

/-- Entering a name leaves the names that are there in their places. -/
theorem names_prefix_intern (t : NameTable) (name : String) :
    t.names <+: (t.intern name).2.names := by
  unfold intern
  split
  · exact List.prefix_refl _
  · exact List.prefix_append _ _

/-- The place given to a name is in the table, and reads as that name.  A name that is there already
    is given the place it has. -/
theorem resolve_intern (t : NameTable) (name : String) :
    (t.intern name).1 < (t.intern name).2.size ∧
      (t.intern name).2.resolve (t.intern name).1 = name := by
  unfold intern
  split
  · rename_i i hi
    obtain ⟨hlt, heq, -⟩ := List.idxOf?_eq_some_iff.1 hi
    refine ⟨hlt, ?_⟩
    rw [resolve, List.getElem?_eq_getElem hlt, heq]; rfl
  · simp [size, resolve]

/-- So a place reads the same, however many names have been entered since. -/
theorem resolve_of_prefix (h : t.names <+: t'.names) (hi : i < t.size) :
    t'.resolve i = t.resolve i := by
  obtain ⟨more, hmore⟩ := h
  rw [resolve, resolve, ← hmore, List.getElem?_append_left hi]

end NameTable

/-! ## Contents

  The content of a node, apart from its links.  The lemmas go with those on links, edit by edit. -/

namespace Tree

variable {t t' : Tree} {i j : NodeId} {e e' : Element}

/-- What the node at an index holds. -/
def content? (t : Tree) (i : NodeId) : Option Content := (t.node? i).map Node.content

/-- An element is what its node holds. -/
theorem element?_eq_some_iff : t.element? i = some e ↔ t.content? i = some (.element e) := by
  unfold element? content? Node.element?
  cases t.node? i with
  | none => simp
  | some n => cases hn : n.content <;> simp [hn]

/-- What holds something is a node of the tree. -/
theorem lt_size_of_content? {c : Content} (h : t.content? i = some c) : i < t.size := by
  obtain ⟨n, hn, -⟩ := Option.map_eq_some_iff.1 h
  exact lt_size_of_node? hn

/-- So is an element. -/
theorem lt_size_of_element? (h : t.element? i = some e) : i < t.size :=
  lt_size_of_content? (element?_eq_some_iff.1 h)

/-- A new node holds what it was made of, and the other nodes what they held. -/
theorem content?_of_push {n : Node} (h : t'.nodes = t.nodes.push n) (i : NodeId) :
    t'.content? i = if i = t.size then some n.content else t.content? i := by
  rw [content?, node?_of_push h]
  split <;> rfl

/-- Changing a node changes its content by what the change does to contents. -/
theorem content?_modify {f : Node → Node} {g : Content → Content}
    (hg : ∀ n, (f n).content = g n.content) (t : Tree) (j i : NodeId) :
    (t.modify j f).content? i = if j = i then (t.content? i).map g else t.content? i := by
  rw [content?, node?_modify]
  split
  · rw [Option.map_map, content?, Option.map_map]
    congr 1
    exact funext hg
  · rfl

/-- A change of links changes no content. -/
theorem content?_modify_of_eq {f : Node → Node} (hf : ∀ n, (f n).content = n.content) (t : Tree)
    (j i : NodeId) : (t.modify j f).content? i = t.content? i := by
  rw [content?_modify (g := fun c => c) hf, Option.map_id', ite_self]

/-- Hanging a node changes no content. -/
theorem content?_append (t : Tree) (parent child i : NodeId) :
    (t.append parent child).content? i = t.content? i := by
  unfold append
  split
  · split
    · rfl
    · dsimp only
      rw [content?_modify_of_eq]
      · split
        · rw [content?_modify_of_eq, content?_modify_of_eq] <;> exact fun _ => rfl
        · rw [content?_modify_of_eq, content?_modify_of_eq] <;> exact fun _ => rfl
      · exact fun _ => rfl
  · rfl

/-- Hanging a node enters no name. -/
@[simp] theorem names_append (t : Tree) (parent child : NodeId) :
    (t.append parent child).names = t.names := by
  unfold append
  split
  · split
    · rfl
    · split <;> rfl
  · rfl

/-- The content of an element after an attribute of it has been set; others stay as they are. -/
def Content.withAttribute (name : NameId) (spelling value : String) : Content → Content
  | .element e => .element (e.setAttribute name spelling value)
  | c => c

/-- Setting an attribute changes the content of its own node only, and only where this is an
    element.  The name is entered in any case. -/
theorem content?_setAttribute (t : Tree) (j i : NodeId) (name value : String) :
    (t.setAttribute j name value).content? i =
      if j = i then (t.content? i).map (Content.withAttribute (t.names.intern name).1 name value)
      else t.content? i := by
  refine content?_modify (t := { t with names := _ }) (fun n => ?_) j i
  cases hc : n.content with
  | element e => simp only [Content.withAttribute]; rfl
  | _ => simp [hc, Content.withAttribute]

/-- Every element has a tag. -/
theorem exists_tagName? {t : Tree} {i : NodeId} (h : t.isElement i = true) :
    ∃ tag, t.tagName? i = some tag := by
  obtain ⟨e, he⟩ := Option.isSome_iff_exists.1 h
  exact ⟨_, by rw [tagName?, he]; rfl⟩

/-! ## Trees in use

  The invariant is shown of the empty tree and of each edit, like the agreement of links and
  lists. -/

/-- The document node is in its place, and the elements have known names in lower case.  An element
    holds the place of its name and not the name, so the order is one between the nodes and the
    table. -/
structure Named (t : Tree) : Prop where
  content?_root : t.content? root = some .document
  name_lt : ∀ i e, t.element? i = some e → e.name < t.names.size
  lower_name : ∀ i e, t.element? i = some e →
    Ascii.lower (t.names.resolve e.name) = t.names.resolve e.name

namespace Named

/-- The empty tree has the document node and no element. -/
theorem empty : Named Tree.empty := by
  refine ⟨rfl, fun i e he => ?_, fun i e he => ?_⟩ <;> cases i <;> cases he

/-- Where names are only added, elements that keep their names stay as they should be.  An edit has
    to show this much and no more: the document node stays, the table grows, and an element is an
    old one or has a proper name. -/
theorem of_elements (h : Named t) (hroot : t'.content? root = t.content? root)
    (hnames : t.names.names <+: t'.names.names)
    (hel : ∀ i e', t'.element? i = some e' →
      (∃ e, t.element? i = some e ∧ e'.name = e.name) ∨
      (e'.name < t'.names.size ∧
        Ascii.lower (t'.names.resolve e'.name) = t'.names.resolve e'.name)) : Named t' := by
  refine ⟨hroot.trans h.content?_root, fun i e' he' => ?_, fun i e' he' => ?_⟩
  · rcases hel i e' he' with ⟨e, he, hname⟩ | ⟨hlt, -⟩
    · rw [hname]
      exact Nat.lt_of_lt_of_le (h.name_lt i e he) hnames.length_le
    · exact hlt
  · rcases hel i e' he' with ⟨e, he, hname⟩ | ⟨-, hlow⟩
    · rw [hname, NameTable.resolve_of_prefix hnames (h.name_lt i e he)]
      exact h.lower_name i e he
    · exact hlow

/-- The document node is a node of the tree. -/
theorem root_lt (h : Named t) : root < t.size := lt_size_of_content? h.content?_root

/-- A new node.  It gets a number behind all others, so it is not the document node, and no other
    element changes. -/
theorem push (h : Named t) {c : Content} (hpush : t'.nodes = t.nodes.push (.detached c))
    (hnames : t.names.names <+: t'.names.names)
    (hc : ∀ e, c = .element e → e.name < t'.names.size ∧
      Ascii.lower (t'.names.resolve e.name) = t'.names.resolve e.name) : Named t' := by
  refine h.of_elements ?_ hnames fun i e' he' => ?_
  · rw [content?_of_push hpush, if_neg (Nat.ne_of_lt h.root_lt)]
  · rw [element?_eq_some_iff, content?_of_push hpush] at he'
    split at he'
    · exact Or.inr (hc e' (Option.some.inj he'))
    · exact Or.inl ⟨e', element?_eq_some_iff.2 he', rfl⟩

/-- **Every edit keeps names and contents in order.**  Only making an element enters a tag, and it
    enters the tag in lower case.  An attribute may enter a name, but it leaves the one of its
    element. -/
theorem apply (h : Named t) (ed : Edit) : Named (t.apply ed) := by
  rcases ed with tag | value | value | name | ⟨node, name, value⟩ | ⟨parent, child⟩
  · show Named (t.addElement tag).2
    refine h.push rfl (NameTable.names_prefix_intern _ _) fun e he => ?_
    have hname : e.name = (t.names.intern (Ascii.lower tag)).1 := by
      cases he
      rfl
    have hnames : (t.addElement tag).2.names = (t.names.intern (Ascii.lower tag)).2 := rfl
    -- the name that was entered is in lower case, and lowering it again changes nothing
    obtain ⟨hlt, heq⟩ := NameTable.resolve_intern t.names (Ascii.lower tag)
    rw [hname, hnames, heq]
    exact ⟨hlt, Ascii.lower_lower tag⟩
  · show Named (t.addText value).2
    exact h.push rfl (List.prefix_refl _) fun e he => by cases he
  · show Named (t.addComment value).2
    exact h.push rfl (List.prefix_refl _) fun e he => by cases he
  · show Named (t.addDoctype name).2
    exact h.push rfl (NameTable.names_prefix_intern _ _) fun e he => by cases he
  · refine h.of_elements ?_ (NameTable.names_prefix_intern _ name) fun i e' he' => ?_
    · refine (t.content?_setAttribute node root name value).trans ?_
      simp only [h.content?_root, Option.map_some, Content.withAttribute, ite_self]
    · rw [element?_eq_some_iff] at he'
      have hc := (t.content?_setAttribute node i name value).symm.trans he'
      split at hc
      · obtain ⟨c, hold, heq⟩ := Option.map_eq_some_iff.1 hc
        cases c <;> cases heq
        exact Or.inl ⟨_, element?_eq_some_iff.2 hold, rfl⟩
      · exact Or.inl ⟨e', element?_eq_some_iff.2 hc, rfl⟩
  · refine h.of_elements (t.content?_append parent child root) ?_ fun i e' he' => ?_
    · have hnames : (t.apply (.append parent child)).names = t.names := names_append t parent child
      exact hnames.symm ▸ List.prefix_refl _
    · rw [element?_eq_some_iff] at he'
      exact Or.inl ⟨e', element?_eq_some_iff.2 ((t.content?_append parent child i).symm.trans he'),
        rfl⟩

end Named

namespace Reachable

/-- Every tree in use is in this order. -/
theorem named (ht : t.Reachable) : t.Named :=
  ht.induction Named.empty fun _ e _ h => h.apply e

/-- The document node is no element.  So it has no place among siblings, and no selector matches
    it. -/
theorem isElement_root (ht : t.Reachable) : t.isElement root = false := by
  cases he : t.element? root with
  | none => rw [isElement, he]; rfl
  | some e =>
    rw [element?_eq_some_iff, ht.named.content?_root] at he
    cases he

/-- **Tags are in lower case.**  In whatever case an element was made, its tag is read in lower case
    from then on. -/
theorem lower_tagName? (ht : t.Reachable) {tag : String} (h : t.tagName? i = some tag) :
    Ascii.lower tag = tag := by
  obtain ⟨e, he, rfl⟩ := Option.map_eq_some_iff.1 h
  exact ht.named.lower_name i e he

end Reachable

end Tree

end Pinpoint
