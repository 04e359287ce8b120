/-
  The id and the class list, asked for by selectors.

  `#v` and `.v` read the id and the class list that an element keeps; tests on the attributes "id"
  and "class" read the attributes.  An attribute is found whatever case its name is in, and the kept
  values follow one spelling only, so the two agree where no attribute goes by another one.

  1. Where a name is there in one case, a test finds the value of this name (`attribute?_eq_lookup`).
  2. **Asking for the kept value is asking for the attribute** (`matchesAt_id_eq`,
     `matchesAt_className_eq`).
  3. The first element with an id, by way of a selector (`query?_id`).
  4. All of it for every history of edits (`keptValues_follow_attributes`).
-/
import Pinpoint.Proofs.Document.Attributes
import Pinpoint.Proofs.Search.ElementTree
import Pinpoint.Proofs.Search.Standard

namespace Pinpoint

/-! ## Names in one case

  A test finds its attribute by the letters of the name, in whatever case; the kept values follow
  the names "id" and "class" as they are written here.  Both find the same attribute as long as no
  other spelling comes before. -/

/-- None of the attributes goes by the name in another case. -/
def InOneCase (name : String) (shown : List (String × String)) : Prop :=
  ∀ a ∈ shown, Ascii.sameLetters a.1 name = true → a.1 = name

instance (name : String) (shown : List (String × String)) : Decidable (InOneCase name shown) :=
  inferInstanceAs (Decidable (∀ a ∈ shown, _))

/-- Where the name is there in one case, the first attribute whose name has the same letters is the
    one that goes by this very name. -/
theorem InOneCase.find?_eq_lookup {name : String} {shown : List (String × String)}
    (h : InOneCase name shown) :
    (shown.find? fun a => Ascii.sameLetters a.1 name).map (·.2) = shown.lookup name := by
  induction shown with
  | nil => rfl
  | cons a shown ih =>
    obtain ⟨m, value⟩ := a
    obtain ⟨hfirst, hrest⟩ := List.forall_mem_cons.1 h
    rw [List.find?_cons, List.lookup_cons]
    by_cases hm : m = name
    · subst hm
      have hself : Ascii.sameLetters m m = true := beq_self_eq_true _
      simp [hself]
    · have hother : Ascii.sameLetters m name = false := by
        rw [Bool.eq_false_iff]
        exact fun hsame => hm (hfirst hsame)
      have hne : (name == m) = false := beq_false_of_ne fun he => hm he.symm
      rw [hother, hne]
      exact ih hrest

namespace Document

variable {d : Document} {i : NodeId} {e : Element} {v : String}

/-- The attributes that a host shows are those of the element, with the names that their numbers
    stand for. -/
theorem attributes_of_element? (he : d.tree.element? i = some e) :
    d.host.attributes i = e.attributes.map d.tree.names.pair := by
  show d.attributesOf i = _
  rw [attributesOf, he]
  rfl

/-- A test finds the value that a name has. -/
theorem attribute?_eq_lookup (he : d.tree.element? i = some e) {name : String}
    (h : InOneCase name (d.host.attributes i)) :
    d.tree.attribute? e name = (d.host.attributes i).lookup name := by
  rw [← h.find?_eq_lookup, attributes_of_element? he]
  exact attribute?_eq_find? d.tree e name

/-! ## Kept values and tests

  So `#v` asks what `[id=v]` asks, and `.v` what `[class~=v]` asks. -/

/-- **An id that follows the attribute is asked for like the attribute.** -/
theorem matchesAt_id_eq (he : d.tree.element? i = some e)
    (hid : e.id = (d.host.attributes i).lookup "id")
    (h : InOneCase "id" (d.host.attributes i)) (v : String) :
    (Component.id v).matchesAt d.tree i e =
      (Component.attribute ⟨"id", some (.equals, v), false⟩).matchesAt d.tree i e := by
  rw [Component.matchesAt, Component.matchesAt, attribute?_eq_lookup he h, hid]
  cases (d.host.attributes i).lookup "id" with
  | none => rfl
  | some w =>
    show (some w == some v) = (w == v)
    exact Option.some_beq_some

/-- **Classes that follow the attribute are asked for like the words of the attribute.** -/
theorem matchesAt_className_eq (he : d.tree.element? i = some e)
    (hclasses : e.classes = (((d.host.attributes i).lookup "class").map Ascii.words).getD [])
    (h : InOneCase "class" (d.host.attributes i)) (v : String) :
    (Component.className v).matchesAt d.tree i e =
      (Component.attribute ⟨"class", some (.includesWord, v), false⟩).matchesAt d.tree i e := by
  rw [Component.matchesAt, Component.matchesAt, attribute?_eq_lookup he h, Element.hasClass,
    hclasses]
  cases (d.host.attributes i).lookup "class" with
  | none => rfl
  | some w => rfl

/-! ## Elements by id

  A document looks an id up by going through its elements in order, and the first match of a
  selector is found in the same way. -/

/-- A name with the sign for ids finds the first element that keeps the name as its id. -/
theorem query?_id (hv : isPlainName v = true) (hne : v ≠ "") (a : NodeId) :
    d.query? a ("#" ++ v) = .ok ((d.tree.descendants a).find? fun i => d.host.id i == some v) := by
  have hmatch : ∀ i, Selector.matchesAt d.tree i [[⟨none, [.id v]⟩]] = (d.host.id i == some v) := by
    intro i
    rw [matchesAt_singleton, Bool.eq_iff_iff, matchesAt_id_iff, beq_iff_eq]
  rw [query?, Selector.parse_id hv hne]
  simp only [← hmatch]
  rfl

/-! ## Every history

  That the kept values follow the attributes is an invariant of edits; the rest is read off it for
  each element. -/

/-- **The id and the class list never drift from the attributes.**  After any edits, the names of an
    element's attributes are distinct and in the order in which they were first set, each has the
    value that was set last, the id is the value under the name "id", and the classes are the words
    under the name "class".  So, where no attribute goes by one of these names in another case, `#v`
    and the test of "id" for `v` hold at the same elements, and so do `.v` and the test of "class"
    for the word `v`.  In a document without circles, the element with an id is the first one in
    document order that has it, and the selector of the id finds this element. -/
theorem keptValues_follow_attributes {edits : List Edit} (hd : d.tree = Tree.ofEdits edits) :
    (∀ i e, d.tree.element? i = some e →
      ((d.host.attributes i).map Prod.fst).Nodup ∧
      (d.host.attributes i).map Prod.fst = distinct ((settingsAt edits i).map Prod.fst) ∧
      (∀ name, (d.host.attributes i).lookup name = (settingsAt edits i).reverse.lookup name) ∧
      e.id = (d.host.attributes i).lookup "id" ∧
      e.classes = (((d.host.attributes i).lookup "class").map Ascii.words).getD [] ∧
      (InOneCase "id" (d.host.attributes i) → ∀ v,
        (Component.id v).matchesAt d.tree i e =
          (Component.attribute ⟨"id", some (.equals, v), false⟩).matchesAt d.tree i e) ∧
      (InOneCase "class" (d.host.attributes i) → ∀ v,
        (Component.className v).matchesAt d.tree i e =
          (Component.attribute ⟨"class", some (.includesWord, v), false⟩).matchesAt d.tree i e)) ∧
    (d.tree.Acyclic → ∃ all, d.tree.InOrder (d.tree.children Tree.root) all ∧
      ∀ v, isPlainName v = true → v ≠ "" →
        d.elementById? v = all.find? (fun i => d.host.id i == some v) ∧
        d.query? Tree.root ("#" ++ v) = .ok (d.elementById? v)) := by
  have ht : d.tree.Reachable := ⟨edits, hd⟩
  constructor
  · intro i e he
    -- all that is known of the data of an element is that it shows what was set
    have hshows : e.Shows d.tree.names (settingsAt edits i) := by
      rw [hd] at he ⊢
      exact Tree.shows_ofEdits edits he
    have hshown : d.host.attributes i = Markup.lastValues (settingsAt edits i) :=
      (attributes_of_element? he).trans hshows.attributes
    have hlookup : ∀ name, (d.host.attributes i).lookup name =
        (settingsAt edits i).reverse.lookup name := by
      intro name
      rw [hshown, Markup.lookup_lastValues]
    have hnames : (d.host.attributes i).map Prod.fst =
        distinct ((settingsAt edits i).map Prod.fst) := by
      rw [hshown, Markup.map_fst_lastValues]
    have hid : e.id = (d.host.attributes i).lookup "id" := hshows.id.trans (hlookup "id").symm
    have hclasses : e.classes =
        (((d.host.attributes i).lookup "class").map Ascii.words).getD [] := by
      rw [hshows.classes, hlookup]
    exact ⟨hnames ▸ nodup_distinct _, hnames, hlookup, hid, hclasses, matchesAt_id_eq he hid,
      matchesAt_className_eq he hclasses⟩
  · intro hacyclic
    exact ⟨d.elements, ht.inOrder_descendants (hacyclic Tree.root),
      fun v hv hne => ⟨rfl, query?_id hv hne Tree.root⟩⟩

/-- A paragraph is given an id before it is there, which is lost, and then a class list and an id,
    each of them twice; the paragraph after it gets the same id under two spellings. -/
def markedTwice : List Edit :=
  [.attribute 1 "id" "lost", .element "p", .append 0 1, .attribute 1 "class" "a",
   .attribute 1 "id" "old", .attribute 1 "title" "t", .attribute 1 "id" "new",
   .attribute 1 "class" " b\ta ", .element "p", .append 0 2, .attribute 2 "ID" "x",
   .attribute 2 "id" "new"]

/-- The page that these edits make. -/
def markedPage : Document := ⟨Tree.ofEdits markedTwice, none, none, none⟩

/-- The names of the first paragraph are in the order of their first settings, with what was set
    last; its id and its class list are asked for like its attributes; and the selector of the id
    finds it.  Of the second one, which has an id under another spelling as well, nothing is said. -/
theorem keptValues_follow_attributes_markedTwice :
    (markedPage.host.attributes 1).map Prod.fst = ["class", "id", "title"] ∧
    (markedPage.host.attributes 1).lookup "class" = some " b\ta " ∧
    markedPage.host.id 1 = some "new" ∧ markedPage.host.classes 1 = ["b", "a"] ∧
    (∃ e, markedPage.tree.element? 1 = some e ∧
      (Component.attribute ⟨"id", some (.equals, "new"), false⟩).matchesAt markedPage.tree 1 e =
        true ∧
      (Component.attribute ⟨"class", some (.includesWord, "a"), false⟩).matchesAt
        markedPage.tree 1 e = true) ∧
    ¬ InOneCase "id" (markedPage.host.attributes 2) ∧
    markedPage.elementById? "new" = some 1 ∧
    markedPage.query? Tree.root ("#" ++ "new") = .ok (some 1) := by
  have hd : markedPage.tree = Tree.ofEdits markedTwice := rfl
  obtain ⟨hkept, hfound⟩ := keptValues_follow_attributes hd
  have hsettings : settingsAt markedTwice 1 =
      [("class", "a"), ("id", "old"), ("title", "t"), ("id", "new"), ("class", " b\ta ")] := by
    decide +kernel
  have hthere : (markedPage.tree.element? 1).isSome = true := by decide +kernel
  obtain ⟨e, he⟩ := Option.isSome_iff_exists.1 hthere
  obtain ⟨-, hnames, hlast, hid, hclasses, hidTest, hclassTest⟩ := hkept 1 e he
  rw [hsettings] at hnames hlast
  have hidValue : e.id = some "new" := by
    rw [hid, hlast]
    decide
  have hclassValue : e.classes = ["b", "a"] := by
    rw [hclasses, hlast]
    decide +kernel
  have hidCase : InOneCase "id" (markedPage.host.attributes 1) := by decide +kernel
  have hclassCase : InOneCase "class" (markedPage.host.attributes 1) := by decide +kernel
  have hacyclic : markedPage.tree.Acyclic := Tree.acyclic_of_parent?_lt (by decide +kernel)
  obtain ⟨_, -, hquery⟩ := hfound hacyclic
  have hfirst : markedPage.elementById? "new" = some 1 := by decide +kernel
  refine ⟨hnames.trans (by decide), (hlast "class").trans (by decide), by decide +kernel,
    by decide +kernel, ⟨e, he, ?_, ?_⟩, by decide +kernel, hfirst, ?_⟩
  · rw [← hidTest hidCase, Component.matchesAt, hidValue]
    rfl
  · rw [← hclassTest hclassCase, Component.matchesAt, Element.hasClass, hclassValue]
    rfl
  · rw [(hquery "new" (by decide) (by decide)).2, hfirst]

end Document

end Pinpoint
