/-
  What an element knows of its attributes, after any history.

  An element keeps the values that were last set, and beside them an id and a class list.  All three
  are written by the same edits, but each in its own way.

  1. The settings of a node: the attributes it has been given, in order, since it was made
     (`settingsAt`).  Before that there was nothing to give them to.
  2. **What an edit does to elements** (`element?_apply`): it makes a new one without attributes, or
     it sets one attribute of one element, or it leaves every element as it is.
  3. An element `Shows` its settings: the attributes are the last values, and the id and the class
     list follow them.  The step is the setting of one attribute, and **every tree made by edits shows
     the settings of its elements** (`shows_ofEdits`).
  4. Last values by name: each name once, in the order of the first setting, with what was set last.
-/
import Pinpoint.Proofs.Markup.Attributes
import Pinpoint.Search.Options

namespace Pinpoint

/-! ## Settings

  What an element has been given is read off the history of edits alone, without looking at a
  tree. -/

/-- Does the edit make a node? -/
def Edit.makesNode : Edit → Bool
  | .element _ | .text _ | .comment _ | .doctype _ => true
  | .attribute _ _ _ | .append _ _ => false

/-- The name and the value that the edit gives to the node `i`, if it does. -/
def Edit.setting? (i : NodeId) : Edit → Option (String × String)
  | .attribute node name value => if node = i then some (name, value) else none
  | _ => none

/-- The edits after the one that has made the node `i`; the document node is there from the start.
    Nodes are numbered in the order in which they are made, so going past an edit that makes one
    takes one off the number. -/
def editsSince : NodeId → List Edit → List Edit
  | 0, edits => edits
  | _ + 1, [] => []
  | i + 1, e :: edits => if e.makesNode then editsSince i edits else editsSince (i + 1) edits

/-- The names and values that the node `i` has been given, in order. -/
def settingsAt (edits : List Edit) (i : NodeId) : List (String × String) :=
  (editsSince i edits).filterMap (Edit.setting? i)

example : settingsAt [.attribute 1 "id" "a", .element "p", .attribute 1 "id" "b", .element "q",
    .attribute 2 "id" "c", .attribute 1 "ID" "d"] 1 = [("id", "b"), ("ID", "d")] := by decide

/-- No edit comes after any node where there are none. -/
theorem editsSince_nil (i : NodeId) : editsSince i [] = [] := by
  cases i <;> rfl

/-- One more edit comes after a node if the node was there before. -/
theorem editsSince_concat (edits : List Edit) (e : Edit) (i : NodeId) :
    editsSince i (edits ++ [e]) =
      if i ≤ edits.countP Edit.makesNode then editsSince i edits ++ [e] else [] := by
  induction edits generalizing i with
  | nil =>
    cases i with
    | zero => rfl
    | succ i =>
      -- one edit makes one node at most, and none after a further one
      have hnew : editsSince (i + 1) [e] = [] := by
        rw [editsSince]
        split <;> exact editsSince_nil _
      rw [List.nil_append, hnew]
      exact (if_neg (Nat.not_succ_le_zero i)).symm
  | cons e' edits ih =>
    cases i with
    | zero =>
      rw [if_pos (Nat.zero_le _)]
      rfl
    | succ i =>
      rw [List.cons_append, editsSince, editsSince, List.countP_cons, ih, ih]
      by_cases he : e'.makesNode = true
      · simp only [he, if_true, Nat.succ_eq_add_one, Nat.add_le_add_iff_right]
      · simp only [he, if_false, Nat.add_zero, Bool.false_eq_true]

namespace Tree

variable {t t' : Tree} {i : NodeId} {e e' : Element}

/-- An edit makes one node or none. -/
theorem size_apply (t : Tree) (ed : Edit) :
    (t.apply ed).size = if ed.makesNode then t.size + 1 else t.size := by
  rcases ed with tag | value | value | name | ⟨node, name, value⟩ | ⟨parent, child⟩
  · exact Array.size_push _
  · exact Array.size_push _
  · exact Array.size_push _
  · exact Array.size_push _
  · exact t.size_setAttribute node name value
  · exact t.size_append parent child

/-- There are as many nodes as have been made, and the document node. -/
theorem size_ofEdits (edits : List Edit) :
    (ofEdits edits).size = edits.countP Edit.makesNode + 1 := by
  induction edits using List.reverseRecOn with
  | nil => rfl
  | append_singleton edits ed ih =>
    rw [ofEdits_concat, size_apply, ih, List.countP_append, List.countP_singleton]
    split <;> rfl

/-- A setting counts for a node that is there; a new node has none.  Nodes are never taken away, so
    once it counts, it counts for good. -/
theorem settingsAt_concat (edits : List Edit) (ed : Edit) (i : NodeId) :
    settingsAt (edits ++ [ed]) i =
      if i < (ofEdits edits).size then settingsAt edits i ++ (ed.setting? i).toList else [] := by
  have hthere : i < (ofEdits edits).size ↔ i ≤ edits.countP Edit.makesNode := by
    rw [size_ofEdits, Nat.lt_succ_iff]
  rw [settingsAt, editsSince_concat]
  simp only [hthere]
  split
  · rw [List.filterMap_append, settingsAt]
    cases h : ed.setting? i <;> simp [h]
  · rfl

/-! ## What an edit does to elements

  From the side of one element: what the tree holds at its number before and after. -/

/-- An edit leaves the names that are in the table in their places. -/
theorem names_prefix_apply (t : Tree) (ed : Edit) : t.names.names <+: (t.apply ed).names.names := by
  rcases ed with tag | value | value | name | ⟨node, name, value⟩ | ⟨parent, child⟩
  · exact NameTable.names_prefix_intern t.names (Ascii.lower tag)
  · exact List.prefix_refl _
  · exact List.prefix_refl _
  · exact NameTable.names_prefix_intern t.names name
  · exact NameTable.names_prefix_intern t.names name
  · have hsame : (t.apply (.append parent child)).names = t.names := t.names_append parent child
    exact hsame ▸ List.prefix_refl _

/-- An element of a tree with one more node is the new one or was there before. -/
theorem element?_of_push {c : Content} (h : t'.nodes = t.nodes.push (.detached c))
    (he : t'.element? i = some e') :
    (i = t.size ∧ c = .element e') ∨ (i < t.size ∧ t.element? i = some e') := by
  rw [element?_eq_some_iff, content?_of_push h] at he
  split at he
  · rename_i hi
    exact Or.inl ⟨hi, Option.some.inj he⟩
  · exact Or.inr ⟨lt_size_of_content? he, element?_eq_some_iff.2 he⟩

/-- A new node that is no element leaves the elements as they are. -/
theorem element?_of_push_of_ne {c : Content} (h : t'.nodes = t.nodes.push (.detached c))
    (hc : ∀ e, c ≠ .element e) (he : t'.element? i = some e') :
    i < t.size ∧ t.element? i = some e' := by
  rcases element?_of_push h he with ⟨-, hnew⟩ | hold
  · exact absurd hnew (hc e')
  · exact hold

/-- **What an edit does to elements.**  An element after it is new and has no attributes, or it was
    there before and is unchanged, or the edit has set one attribute of it.  In the last case the
    name is entered in the table first, and the element is given its place. -/
theorem element?_apply {ed : Edit} (h : (t.apply ed).element? i = some e') :
    (i = t.size ∧ ∃ name, e' = .named name) ∨
    (i < t.size ∧ ed.setting? i = none ∧ t.element? i = some e') ∨
    (i < t.size ∧ ∃ name value e, ed = .attribute i name value ∧ t.element? i = some e ∧
      e' = e.setAttribute (t.names.intern name).1 name value) := by
  rcases ed with tag | value | value | name | ⟨node, name, value⟩ | ⟨parent, child⟩
  · have hpush : (t.apply (.element tag)).nodes = t.nodes.push
        (.detached (.element (.named (t.names.intern (Ascii.lower tag)).1))) := rfl
    rcases element?_of_push hpush h with ⟨hi, hnew⟩ | ⟨hi, hold⟩
    · cases hnew
      exact Or.inl ⟨hi, _, rfl⟩
    · exact Or.inr (Or.inl ⟨hi, rfl, hold⟩)
  · have hpush : (t.apply (.text value)).nodes = t.nodes.push (.detached (.text value)) := rfl
    obtain ⟨hi, hold⟩ := element?_of_push_of_ne hpush (fun _ hc => by cases hc) h
    exact Or.inr (Or.inl ⟨hi, rfl, hold⟩)
  · have hpush : (t.apply (.comment value)).nodes = t.nodes.push (.detached (.comment value)) := rfl
    obtain ⟨hi, hold⟩ := element?_of_push_of_ne hpush (fun _ hc => by cases hc) h
    exact Or.inr (Or.inl ⟨hi, rfl, hold⟩)
  · have hpush : (t.apply (.doctype name)).nodes =
        t.nodes.push (.detached (.doctype (t.names.intern name).1)) := rfl
    obtain ⟨hi, hold⟩ := element?_of_push_of_ne hpush (fun _ hc => by cases hc) h
    exact Or.inr (Or.inl ⟨hi, rfl, hold⟩)
  · rw [element?_eq_some_iff] at h
    -- only at the node itself is the content another one, and only if it is an element
    have hc := (t.content?_setAttribute node i name value).symm.trans h
    split at hc
    · rename_i hi
      subst hi
      obtain ⟨c, hold, heq⟩ := Option.map_eq_some_iff.1 hc
      cases c <;> cases heq
      have hold := element?_eq_some_iff.2 hold
      exact Or.inr (Or.inr ⟨lt_size_of_element? hold, name, value, _, rfl, hold, rfl⟩)
    · rename_i hi
      have hold := element?_eq_some_iff.2 hc
      exact Or.inr (Or.inl ⟨lt_size_of_element? hold, if_neg hi, hold⟩)
  · rw [element?_eq_some_iff] at h
    have hold := element?_eq_some_iff.2 ((t.content?_append parent child i).symm.trans h)
    exact Or.inr (Or.inl ⟨lt_size_of_element? hold, rfl, hold⟩)

end Tree

/-! ## Elements show their settings

  The attribute list, the id and the class list are three records of the same settings. -/

/-- The attributes are the last values of the settings, and the id and the class list follow the
    names "id" and "class".  These two are compared with the name as it was given, so other
    spellings of it set an attribute and no more. -/
structure Element.Shows (names : NameTable) (e : Element) (given : List (String × String)) : Prop
    where
  attributes : e.attributes.map names.pair = Markup.lastValues given
  id : e.id = given.reverse.lookup "id"
  classes : e.classes = ((given.reverse.lookup "class").map Ascii.words).getD []

namespace Element.Shows

variable {names names' : NameTable} {e : Element} {given : List (String × String)}

/-- An element without settings shows none. -/
theorem named (name : NameId) : Shows names (.named name) [] := ⟨rfl, rfl, rfl⟩

/-- Names that are only added change nothing. -/
theorem of_moreNames (h : e.Shows names given) (hpre : names.names <+: names'.names)
    (hlt : ∀ n ∈ e.attributes.map Attribute.name, n < names.size) : e.Shows names' given where
  attributes := by rw [NameTable.map_pair_of_prefix hpre hlt, h.attributes]
  id := h.id
  classes := h.classes

/-- **The step**: one more attribute is set.  Each of the three parts is written by a line of its
    own, and each is the last value afterwards. -/
theorem setAttribute (h : e.Shows names given) (hnodup : names.names.Nodup)
    (hlt : ∀ n ∈ e.attributes.map Attribute.name, n < names.size) (name value : String) :
    (e.setAttribute (names.intern name).1 name value).Shows (names.intern name).2
      (given ++ [(name, value)]) where
  attributes := by
    have hpre := NameTable.names_prefix_intern names name
    obtain ⟨hname, hresolve⟩ := NameTable.resolve_intern names name
    show (putAttribute _ value e.attributes).map _ = _
    rw [NameTable.map_pair_putAttribute (NameTable.nodup_intern hnodup name) hname
      (fun n hn => Nat.lt_of_lt_of_le (hlt n hn) hpre.length_le), hresolve,
      (h.of_moreNames hpre hlt).attributes, Markup.putPair_lastValues]
  id := by
    show (if name = "id" then some value else e.id) = _
    rw [Markup.lookup_reverse_concat, h.id]
  classes := by
    show (if name = "class" then Ascii.words value else e.classes) = _
    rw [Markup.lookup_reverse_concat, h.classes]
    split <;> rfl

end Element.Shows

/-- **Every tree made by edits shows the settings of its elements.**  By induction on the history
    from its end; the three cases are those of the lemma about one edit. -/
theorem Tree.shows_ofEdits (edits : List Edit) {i : NodeId} {e : Element}
    (he : (ofEdits edits).element? i = some e) :
    e.Shows (ofEdits edits).names (settingsAt edits i) := by
  induction edits using List.reverseRecOn generalizing e with
  | nil => cases i <;> cases he
  | append_singleton edits ed ih =>
    have hnamed : (ofEdits edits).WellNamed := Reachable.wellNamed ⟨edits, rfl⟩
    -- the names of an element are in the table, so they read the same later on
    have hlt : ∀ {e}, (ofEdits edits).element? i = some e →
        ∀ n ∈ e.attributes.map Attribute.name, n < (ofEdits edits).names.size := by
      intro e hold n hn
      exact hnamed.lt_size i _ (element?_eq_some_iff.1 hold) n (List.mem_cons_of_mem _ hn)
    rw [settingsAt_concat]
    rw [ofEdits_concat] at he ⊢
    rcases element?_apply he with ⟨rfl, name, rfl⟩ | ⟨hi, hnone, hold⟩ |
      ⟨hi, name, value, e, rfl, hold, rfl⟩
    · rw [if_neg (Nat.lt_irrefl _)]
      exact .named name
    · rw [if_pos hi, hnone, Option.toList_none, List.append_nil]
      exact (ih hold).of_moreNames (names_prefix_apply _ ed) (hlt hold)
    · have hset : (Edit.attribute i name value).setting? i = some (name, value) := if_pos rfl
      rw [if_pos hi, hset]
      exact (ih hold).setAttribute hnamed.nodup (hlt hold) name value

/-! ## Last values by name

  How the list of last values answers a search for a name. -/

namespace Markup

/-- Each name is there once, in the order of the first setting. -/
theorem map_fst_lastValues (pairs : List (String × String)) :
    (lastValues pairs).map Prod.fst = distinct (pairs.map Prod.fst) := by
  induction pairs with
  | nil => rfl
  | cons p rest ih =>
    obtain ⟨name, value⟩ := p
    rw [lastValues, List.map_cons, List.map_cons, distinct, ← ih, List.filter_map]
    rfl

/-- Looking up one name, the pairs of another do not matter. -/
theorem lookup_filter_ne {name key : String} (h : key ≠ name) (pairs : List (String × String)) :
    (pairs.filter (·.1 ≠ name)).lookup key = pairs.lookup key := by
  induction pairs with
  | nil => rfl
  | cons p rest ih =>
    obtain ⟨m, v⟩ := p
    by_cases hm : m = name
    · have hkey : (key == m) = false := beq_false_of_ne (hm ▸ h)
      simpa [hm, List.lookup_cons, hm ▸ hkey] using ih
    · rw [List.filter_cons_of_pos (by simpa using hm), List.lookup_cons, List.lookup_cons, ih]

/-- A name has the value that was set last under it. -/
theorem lookup_lastValues (pairs : List (String × String)) (key : String) :
    (lastValues pairs).lookup key = pairs.reverse.lookup key := by
  induction pairs with
  | nil => rfl
  | cons p rest ih =>
    obtain ⟨name, value⟩ := p
    rw [lastValues, List.reverse_cons, List.lookup_append, List.lookup_cons]
    by_cases h : key = name
    · subst h
      cases rest.reverse.lookup key <;> simp
    · have hne : (key == name) = false := beq_false_of_ne h
      rw [hne, lookup_filter_ne h, ih]
      cases rest.reverse.lookup key <;> simp [List.lookup_cons, hne]

end Markup

end Pinpoint
