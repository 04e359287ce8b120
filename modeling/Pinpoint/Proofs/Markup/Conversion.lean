/-
  A document shows what is kept of its markup.

  1. `count` and `heads`: how many nodes show some items, and which nodes show the items themselves
     when all are numbered in preorder.
  2. **Laid out** (`LaidOut`): from one node on, the nodes of a tree show some items in preorder.
     Then the walk through them is the run of their numbers, and reading them back gives the items.
  3. **One piece at a time**: a new node is made, gets its attributes while it hangs nowhere
     (`Adds`), and is hung; what is inside follows behind it (`Hung`).  Nothing that was there before
     changes, but for one list of children.
  4. **By induction on the markup**, a document shows all that is kept, numbered in preorder
     (`ofMarkup_shows_kept`).
-/
import Pinpoint.Proofs.Document.Descendants
import Pinpoint.Proofs.Document.History
import Pinpoint.Proofs.Markup.Attributes

namespace Pinpoint

/-! ## Numbers in preorder

  Markup is converted in one pass, and nodes get their numbers in the order in which they are made.
  So the numbers are known from the markup alone. -/

namespace Markup

/-- The items inside an item; only an element holds any. -/
def Item.inside : Item → List Item
  | .element _ _ children => children
  | _ => []

mutual

/-- The number of nodes that show an item: one for the item itself, and those for what is inside. -/
def Item.count : Item → Nat
  | .element _ _ children => 1 + countAll children
  | _ => 1

/-- The number of nodes that show some items. -/
def countAll : List Item → Nat
  | [] => 0
  | item :: rest => item.count + countAll rest

end

/-- The node of an item, and those of what is inside. -/
theorem Item.count_eq (item : Item) : item.count = 1 + countAll item.inside := by
  cases item <;> rfl

/-- Items in a row have as many nodes as both parts. -/
theorem countAll_append (xs ys : List Item) : countAll (xs ++ ys) = countAll xs + countAll ys := by
  induction xs with
  | nil => rw [List.nil_append, countAll, Nat.zero_add]
  | cons x xs ih => rw [List.cons_append, countAll, countAll, ih, Nat.add_assoc]

/-- The nodes of the items themselves, where the first has the number `start`.  Between two of them
    are the numbers of what is inside the first. -/
def heads : Nat → List Item → List NodeId
  | _, [] => []
  | start, item :: rest => start :: heads (start + item.count) rest

/-- The nodes of items in a row: those of the first part, and those of the second, numbered on. -/
theorem heads_append (start : Nat) (xs ys : List Item) :
    heads start (xs ++ ys) = heads start xs ++ heads (start + countAll xs) ys := by
  induction xs generalizing start with
  | nil => rfl
  | cons x xs ih => rw [List.cons_append, heads, heads, ih, countAll, Nat.add_assoc]; rfl

end Markup

/-! ## What a node shows

  A node shows an item when its content is written out with the names of the table. -/

section Shown

variable {names names' : NameTable} {c : Content} {item : Markup.Item} {inside : List Markup.Item}

/-- What a node shows stays, whatever names are added: its names are in the table already, and read
    the same. -/
theorem Content.item?_of_prefix (h : names.names <+: names'.names)
    (hlt : ∀ n ∈ c.nameIds, n < names.size) : c.item? names' inside = c.item? names inside := by
  cases c with
  | element e =>
    obtain ⟨hname, hattributes⟩ := List.forall_mem_cons.1 hlt
    rw [item?, item?, NameTable.resolve_of_prefix h hname,
      NameTable.map_pair_of_prefix h hattributes]
  | doctype name =>
    cases inside with
    | nil =>
      rw [item?, item?, NameTable.resolve_of_prefix h (hlt name (List.mem_singleton.2 rfl))]
    | cons x xs => rfl
  | _ => cases inside <;> rfl

/-- A node shows the items that it was asked to show inside. -/
theorem Content.inside_of_item? (h : c.item? names inside = some item) : item.inside = inside := by
  cases c <;> cases inside <;> cases h <;> rfl

/-- Items go inside an element, whatever they are. -/
theorem Content.item?_of_element {tag : String} {attributes : List (String × String)}
    (h : c.item? names [] = some (.element tag attributes [])) :
    c.item? names inside = some (.element tag attributes inside) := by
  cases c with
  | element e =>
    cases h
    rfl
  | _ => cases h

end Shown

namespace Tree

open Markup (Item countAll heads keptItems)

variable {t t' t'' : Tree} {p : Nat} {item : Item} {items xs ys : List Item}

/-! ## Laid out

  The invariant of the conversion, said of a tree and a list of items. -/

/-- The nodes of a tree from `start` on show these items in preorder.  A node holds its item, its
    children are the nodes of what is inside, these are laid out right behind it, and behind them
    the rest. -/
inductive LaidOut (t : Tree) : Nat → List Item → Prop
  | nil (start : Nat) : LaidOut t start []
  | cons {start : Nat} {c : Content} {item : Item} {rest : List Item}
      (hc : t.content? start = some c) (hitem : c.item? t.names item.inside = some item)
      (hchildren : t.children start = heads (start + 1) item.inside)
      (hinside : LaidOut t (start + 1) item.inside)
      (hrest : LaidOut t (start + item.count) rest) : LaidOut t start (item :: rest)

namespace LaidOut

variable {start : Nat}

/-- Items in a row are laid out one part behind the other. -/
theorem append (h : t.LaidOut start xs) (hys : t.LaidOut (start + countAll xs) ys) :
    t.LaidOut start (xs ++ ys) := by
  induction xs generalizing start with
  | nil => exact hys
  | cons x xs ih =>
    cases h with
    | cons hc hitem hchildren hinside hrest =>
      rw [Markup.countAll, ← Nat.add_assoc] at hys
      exact .cons hc hitem hchildren hinside (ih hrest hys)

/-- A change elsewhere leaves what is shown.  Only the contents and the children of the nodes in
    question are looked at, and names may be added. -/
theorem congr (h : t.LaidOut start items) (ht : t.WellNamed)
    (hnames : t.names.names <+: t'.names.names)
    (hsame : ∀ i, start ≤ i → i < start + countAll items →
      t'.content? i = t.content? i ∧ t'.children i = t.children i) : t'.LaidOut start items := by
  induction h with
  | nil start => exact .nil start
  | @cons start c item rest hc hitem hchildren hinside hrest ihinside ihrest =>
    have hcount := item.count_eq
    rw [Markup.countAll] at hsame
    obtain ⟨hcontent, hlist⟩ := hsame start (Nat.le_refl _) (by omega)
    refine .cons (c := c) (hcontent.trans hc) ?_ (hlist.trans hchildren)
      (ihinside fun i hi hlt => hsame i (by omega) (by omega))
      (ihrest fun i hi hlt => hsame i (by omega) (by omega))
    rw [Content.item?_of_prefix hnames (ht.lt_size start c hc)]
    exact hitem

/-- **The walk through the items passes the nodes in the order of their numbers.**  By induction on
    the items: the nodes inside have the numbers behind the node, and the rest those behind them. -/
theorem walk (h : t.LaidOut start items) :
    t.Walk (heads start items) (List.range' start (countAll items)) := by
  induction h with
  | nil start => exact .nil
  | @cons start c item rest _ _ hchildren _ _ ihinside ihrest =>
    have hcount := item.count_eq
    have hrange : List.range' start (countAll (item :: rest)) =
        start :: (List.range' (start + 1) (countAll item.inside) ++
          List.range' (start + item.count) (countAll rest)) := by
      have hnext : start + item.count = start + 1 + 1 * countAll item.inside := by omega
      have hlen : countAll (item :: rest) = countAll item.inside + countAll rest + 1 := by
        rw [Markup.countAll]
        omega
      rw [hnext, List.range'_append, hlen, List.range'_succ]
    rw [hrange]
    refine .cons ?_ ihrest
    rw [hchildren]
    exact ihinside

/-- **Reading the items back**, with a bound that covers them.  The bound falls with every step
    down; the number of nodes below falls as well. -/
theorem mapM_itemsBelow? (h : t.LaidOut start items) {bound : Nat} (hb : countAll items ≤ bound) :
    (heads start items).mapM (fun k => do
      let inside ← t.itemsBelow? bound k
      let n ← t.node? k
      n.content.item? t.names inside) = some items := by
  induction h generalizing bound with
  | nil start => rfl
  | @cons start c item rest hc hitem hchildren _ _ ihinside ihrest =>
    have hcount := item.count_eq
    rw [Markup.countAll] at hb
    obtain ⟨bound, rfl⟩ : ∃ b, bound = b + 1 := ⟨bound - 1, by omega⟩
    have hbelow : t.itemsBelow? (bound + 1) start = some item.inside := by
      rw [itemsBelow?, hchildren]
      exact ihinside (by omega)
    obtain ⟨n, hn, rfl⟩ := Option.map_eq_some_iff.1 hc
    rw [heads, List.mapM_cons, ihrest (by omega)]
    simp [hbelow, hn, hitem]

end LaidOut

/-! ## A new node

  From the making of a node to its hanging, no other node is touched. -/

/-- In `t'` there is one node more than in `t`.  It hangs nowhere, and it shows the item.  All links
    are as before, so attributes can still be set before the node is hung. -/
structure Adds (t t' : Tree) (item : Item) : Prop where
  reachable : t'.Reachable
  names : t.names.names <+: t'.names.names
  size_eq : t'.size = t.size + 1
  content?_eq : ∀ i < t.size, t'.content? i = t.content? i
  shown : ∃ c, t'.content? t.size = some c ∧ c.item? t'.names [] = some item
  links_eq : ∀ i, t'.links i = t.links i

/-- Making a node adds it. -/
theorem adds_of_push {c : Content} (ht' : t'.Reachable)
    (hpush : t'.nodes = t.nodes.push (.detached c)) (hnames : t.names.names <+: t'.names.names)
    (hitem : c.item? t'.names [] = some item) : t.Adds t' item where
  reachable := ht'
  names := hnames
  size_eq := by
    rw [size, hpush, Array.size_push]
    rfl
  content?_eq i hi := by rw [content?_of_push hpush, if_neg (Nat.ne_of_lt hi)]
  shown := ⟨c, by rw [content?_of_push hpush, if_pos rfl]; rfl, hitem⟩
  links_eq := links_of_push hpush

namespace Adds

variable {tag : String} {attributes : List (String × String)}

/-- An attribute of the new node. -/
theorem setAttribute (h : t.Adds t' (.element tag attributes [])) (name value : String) :
    t.Adds (t'.setAttribute t.size name value)
      (.element tag (Markup.putPair name value attributes) []) where
  reachable := h.reachable.apply (.attribute t.size name value)
  names := h.names.trans (NameTable.names_prefix_intern _ name)
  size_eq := (t'.size_setAttribute _ _ _).trans h.size_eq
  content?_eq i hi := by
    rw [content?_setAttribute, if_neg (Nat.ne_of_gt hi), h.content?_eq i hi]
  links_eq i := (t'.links_setAttribute _ i name value).trans (h.links_eq i)
  shown := by
    obtain ⟨c, hc, hitem⟩ := h.shown
    have hlt := h.reachable.wellNamed.lt_size _ c hc
    have hnames := NameTable.names_prefix_intern t'.names name
    obtain ⟨hid, hname⟩ := NameTable.resolve_intern t'.names name
    cases c with
    | element e =>
      rw [Content.item?, Option.some_inj, Item.element.injEq] at hitem
      obtain ⟨htag, hattributes, -⟩ := hitem
      obtain ⟨htaglt, hattributeslt⟩ := List.forall_mem_cons.1 hlt
      refine ⟨.element (e.setAttribute (t'.names.intern name).1 name value), ?_, ?_⟩
      · rw [content?_setAttribute, if_pos rfl, hc]
        rfl
      · -- in the larger table the old places read as before, and the new one as the name
        have hnodup := NameTable.nodup_intern h.reachable.wellNamed.nodup name
        have hlt' : ∀ n ∈ e.attributes.map Attribute.name, n < (t'.names.intern name).2.size :=
          fun n hn => Nat.lt_of_lt_of_le (hattributeslt n hn) hnames.length_le
        have hshown := NameTable.map_pair_putAttribute hnodup hid hlt' value
        rw [hname, NameTable.map_pair_of_prefix hnames hattributeslt, hattributes] at hshown
        have hresolve := NameTable.resolve_of_prefix hnames htaglt
        show some (Item.element ((t'.names.intern name).2.resolve e.name)
          ((Element.putAttribute (t'.names.intern name).1 value e.attributes).map
            (t'.names.intern name).2.pair) []) = _
        rw [hshown, hresolve, htag]
    | _ => cases hitem

/-- Attributes of the new node, one after another. -/
theorem setAttributes (h : t.Adds t' (.element tag attributes []))
    (more : List (String × String)) :
    t.Adds (t'.setAttributes t.size more)
      (.element tag (more.foldl (fun shown a => Markup.putPair a.1 a.2 shown) attributes) []) := by
  induction more generalizing t' attributes with
  | nil => exact h
  | cons a more ih => exact ih (h.setAttribute a.1 a.2)

/-- The new node stands in no list, and its own is empty. -/
theorem children_eq (ht : t.Reachable) (h : t.Adds t' item) (i : NodeId) :
    t'.children i = t.children i := by
  obtain ⟨m, hm⟩ := ht.agrees
  have hsize : t'.size = m.addNode.size := by
    rw [h.size_eq, ChildLists.size_addNode, hm.size_eq]
  have hm' : Agrees t' m.addNode := hm.of_links_eq hsize h.links_eq m.children_addNode
  rw [hm'.children_eq, hm.children_eq, ChildLists.children_addNode]

end Adds

/-! ## Hung

  The whole of one piece: node, attributes, hanging, and the pieces inside. -/

/-- `t'` shows some more items than `t`, in new nodes that are laid out behind the old ones.  The
    items have been added to the children of `p`, and nothing else has changed.  This is what one
    call of the conversion does; calls in a row and calls inside each other are put together
    below. -/
structure Hung (t t' : Tree) (p : Nat) (items : List Item) : Prop where
  reachable : t'.Reachable
  names : t.names.names <+: t'.names.names
  size_eq : t'.size = t.size + countAll items
  content?_eq : ∀ i < t.size, t'.content? i = t.content? i
  children_eq : ∀ i < t.size,
    t'.children i = if i = p then t.children i ++ heads t.size items else t.children i
  laidOut : t'.LaidOut t.size items

/-- A number that names no node yet has no children. -/
theorem children_of_size_le {i : NodeId} (h : t.size ≤ i) : t.children i = [] := by
  rw [children, node?_eq_none h]
  cases t.size <;> rfl

/-- A new node without children is hung.  It stands in no list before, so it can be hung, and it
    goes to the end of the children of `p`. -/
theorem Adds.hung (ht : t.Reachable) (h : t.Adds t' item) (hp : p < t.size) :
    t.Hung (t'.append p t.size) p [item] := by
  obtain ⟨c, hc, hitem⟩ := h.shown
  have hinside : item.inside = [] := Content.inside_of_item? hitem
  have hcount : item.count = 1 := by rw [item.count_eq, hinside, countAll]
  -- before the node was made nothing could refer to it
  have hfree : (t'.links t.size).parent = none := by
    rw [h.links_eq, links_of_size_le (Nat.le_refl _)]
    rfl
  have hplt : p < t'.size := by rw [h.size_eq]; omega
  have hnewlt : t.size < t'.size := by rw [h.size_eq]; omega
  have hh : t'.CanHang p t.size := ⟨Nat.ne_of_lt hp, hplt, hnewlt, hfree⟩
  obtain ⟨m, hm⟩ := h.reachable.agrees
  have hchildren := hm.children_of_canHang hh
  refine ⟨h.reachable.apply (.append p t.size), ?_, ?_, fun i hi => ?_, fun i hi => ?_, ?_⟩
  · rw [names_append]
    exact h.names
  · rw [size_append, h.size_eq, Markup.countAll, Markup.countAll, hcount]
  · rw [content?_append, h.content?_eq i hi]
  · rw [hchildren, h.children_eq ht, h.children_eq ht]
    by_cases hip : i = p
    · rw [if_pos hip, if_pos hip, hip]
      rfl
    · rw [if_neg hip, if_neg hip]
  · refine .cons (c := c) ?_ ?_ ?_ ?_ (.nil _)
    · rw [content?_append, hc]
    · rw [names_append, hinside, hitem]
    · rw [hchildren, if_neg (Nat.ne_of_gt hp), h.children_eq ht,
        children_of_size_le (Nat.le_refl _), hinside]
      rfl
    · rw [hinside]
      exact .nil _

namespace Hung

/-- Nothing is hung, and nothing changes. -/
theorem nil (ht : t.Reachable) (p : Nat) : t.Hung t p [] where
  reachable := ht
  names := List.prefix_refl _
  size_eq := rfl
  content?_eq _ _ := rfl
  children_eq i _ := by rw [heads, List.append_nil, ite_self]
  laidOut := .nil _

/-- The new nodes stay as they are while items are hung below an older node. -/
theorem laidOut_of_hung (h : t.Hung t' p xs) (h' : t'.Hung t'' p ys) (hp : p < t.size) :
    t''.LaidOut t.size xs := by
  refine h.laidOut.congr h.reachable.wellNamed h'.names fun i hi hlt => ?_
  have hi' : i < t'.size := by rw [h.size_eq]; exact hlt
  refine ⟨h'.content?_eq i hi', ?_⟩
  rw [h'.children_eq i hi', if_neg (Nat.ne_of_gt (Nat.lt_of_lt_of_le hp hi))]

/-- **Items below the same node**, some after others. -/
theorem append (h : t.Hung t' p xs) (h' : t'.Hung t'' p ys) (hp : p < t.size) :
    t.Hung t'' p (xs ++ ys) where
  reachable := h'.reachable
  names := h.names.trans h'.names
  size_eq := by rw [h'.size_eq, h.size_eq, Markup.countAll_append, Nat.add_assoc]
  content?_eq i hi := by
    rw [h'.content?_eq i (by rw [h.size_eq]; omega), h.content?_eq i hi]
  children_eq i hi := by
    rw [h'.children_eq i (by rw [h.size_eq]; omega), h.children_eq i hi, Markup.heads_append,
      h.size_eq]
    by_cases hip : i = p
    · rw [if_pos hip, if_pos hip, if_pos hip, List.append_assoc]
    · rw [if_neg hip, if_neg hip, if_neg hip]
  laidOut := by
    refine (h.laidOut_of_hung h' hp).append ?_
    rw [← h.size_eq]
    exact h'.laidOut

/-- **Items inside an element** that has been hung without any.  They are hung below the new node,
    which is the last one, so they are laid out right behind it. -/
theorem inside {tag : String} {attributes : List (String × String)}
    (h : t.Hung t' p [.element tag attributes []]) (h' : t'.Hung t'' t.size items) :
    t.Hung t'' p [.element tag attributes items] := by
  have hsize : t'.size = t.size + 1 := h.size_eq
  have hne : ∀ i < t.size, i < t'.size ∧ i ≠ t.size := fun i hi => ⟨by omega, Nat.ne_of_lt hi⟩
  refine ⟨h'.reachable, h.names.trans h'.names, ?_, fun i hi => ?_, fun i hi => ?_, ?_⟩
  · rw [h'.size_eq, hsize, Markup.countAll, Markup.countAll, Item.count_eq, Nat.add_assoc]
    rfl
  · rw [h'.content?_eq i (hne i hi).1, h.content?_eq i hi]
  · rw [h'.children_eq i (hne i hi).1, if_neg (hne i hi).2, h.children_eq i hi]
    rfl
  · -- the node of the element is the last of `t'`
    have hlast : t.size < t'.size := by omega
    cases h.laidOut with
    | @cons _ c _ _ hc hitem hchildren _ _ =>
      refine .cons (c := c) ?_ ?_ ?_ ?_ (.nil _)
      · rw [h'.content?_eq _ hlast, hc]
      · have hlt := h.reachable.wellNamed.lt_size _ c hc
        rw [Content.item?_of_prefix h'.names hlt]
        exact Content.item?_of_element hitem
      · rw [h'.children_eq _ hlast, if_pos rfl, hchildren, hsize]
        rfl
      · rw [← hsize]
        exact h'.laidOut

end Hung

/-! ## Markup

  The two functions of the conversion call each other, and so do these two theorems. -/

mutual

/-- **One piece of markup is hung**: what is kept of it.  By induction on the markup, together with
    the next theorem: an element hangs itself first, and then its children below it. -/
theorem hung_addItem {t : Tree} {p : Nat} (ht : t.Reachable) (hp : p < t.size) (item : Item) :
    t.Hung (t.addItem p item) p item.kept := by
  cases item with
  | doctype name =>
    have hnew : t.Adds (t.addDoctype name).2 (.doctype name) := by
      refine adds_of_push (ht.apply (.doctype name)) rfl (NameTable.names_prefix_intern _ name) ?_
      exact congrArg (fun s => some (Item.doctype s)) (NameTable.resolve_intern t.names name).2
    exact hnew.hung ht hp
  | text value =>
    rw [addItem, Item.kept]
    split
    · exact .nil ht p
    · have hnew : t.Adds (t.addText value).2 (.text value) :=
        adds_of_push (ht.apply (.text value)) rfl (List.prefix_refl _) rfl
      exact hnew.hung ht hp
  | comment value =>
    have hnew : t.Adds (t.addComment value).2 (.comment value) :=
      adds_of_push (ht.apply (.comment value)) rfl (List.prefix_refl _) rfl
    exact hnew.hung ht hp
  | element name attributes children =>
    have hnew : t.Adds (t.addElement name).2 (.element (Ascii.lower name) [] []) := by
      refine adds_of_push (ht.apply (.element name)) rfl (NameTable.names_prefix_intern _ _) ?_
      exact congrArg (fun s => some (Item.element s [] []))
        (NameTable.resolve_intern t.names (Ascii.lower name)).2
    have hset := hnew.setAttributes attributes
    rw [Markup.foldl_putPair] at hset
    have hhung := hset.hung ht hp
    -- the children hang from the new node, which has to be there by now
    have hlt : t.size < (((t.addElement name).2.setAttributes t.size attributes).append p
        t.size).size := by
      have hsize := hhung.size_eq
      rw [countAll, Item.count_eq] at hsize
      omega
    exact hhung.inside (hung_addItems hhung.reachable hlt children)
  | instruction target data => exact .nil ht p

/-- **Pieces of markup are hung, in order.** -/
theorem hung_addItems {t : Tree} {p : Nat} (ht : t.Reachable) (hp : p < t.size)
    (items : List Item) :
    t.Hung (t.addItems p items) p (keptItems items) := by
  cases items with
  | nil => exact .nil ht p
  | cons item rest =>
    have hitem := hung_addItem ht hp item
    have hp' : p < (t.addItem p item).size := by
      rw [hitem.size_eq]
      omega
    exact hitem.append (hung_addItems hitem.reachable hp' rest) hp

end

/-! ## The whole document

  From the pieces to the document, and from there to what a reader of the document sees. -/

/-- The document of some markup holds the document node, and behind it what is kept.  Finalizing at
    the end does not touch the tree. -/
theorem hung_ofMarkup (m : Markup) :
    empty.Hung (Document.ofMarkup m).tree root (keptItems m.items) := by
  have htree : (Document.ofMarkup m).tree = empty.addItems root m.items := by
    rw [Document.ofMarkup, Document.finalize]
    split <;> rfl
  rw [htree]
  exact hung_addItems ⟨[], rfl⟩ (by decide) m.items

end Tree

/-- **A document shows what is kept of its markup, and nothing else.**  Read back from the document
    node on, it is the markup without its instructions and its texts of white space, with tags in
    lower case and one attribute for a name.  The walk below the document node passes the nodes in
    the order of their numbers; all of them are attached, and so the elements are listed with rising
    numbers. -/
theorem Document.ofMarkup_shows_kept (m : Markup) :
    (ofMarkup m).tree.markup? = some m.kept ∧
    (ofMarkup m).tree.Walk ((ofMarkup m).tree.children Tree.root)
      (List.range' 1 ((ofMarkup m).tree.size - 1)) ∧
    (∀ i < (ofMarkup m).tree.size, i ≠ Tree.root → (ofMarkup m).tree.Above Tree.root i) ∧
    (ofMarkup m).elements.Pairwise (· < ·) := by
  have h := Tree.hung_ofMarkup m
  have hsize : (ofMarkup m).tree.size = 1 + Markup.countAll m.kept.items := h.size_eq
  have hroot : (ofMarkup m).tree.children Tree.root = Markup.heads 1 m.kept.items :=
    h.children_eq Tree.root (by decide)
  have hlaid : (ofMarkup m).tree.LaidOut 1 m.kept.items := h.laidOut
  have hwalk : (ofMarkup m).tree.Walk ((ofMarkup m).tree.children Tree.root)
      (List.range' 1 ((ofMarkup m).tree.size - 1)) := by
    rw [hroot, hsize, Nat.add_sub_cancel_left]
    exact hlaid.walk
  refine ⟨?_, hwalk, fun i hi hne => ?_, ?_⟩
  · rw [Tree.markup?, hsize, Nat.add_comm, Tree.itemsBelow?, hroot,
      hlaid.mapM_itemsBelow? (Nat.le_refl _)]
    rfl
  · have hmem : i ∈ List.range' 1 ((ofMarkup m).tree.size - 1) := by
      rw [List.mem_range'_1]
      have hne : i ≠ 0 := hne
      omega
    exact h.reachable.above_iff_exists_child.2 ((hwalk.mem_iff h.reachable).1 hmem)
  · -- the walk takes a turn for each node, and has that many
    have hlen : (List.range' 1 ((ofMarkup m).tree.size - 1)).length ≤ (ofMarkup m).tree.size := by
      rw [List.length_range']
      omega
    have helements : (ofMarkup m).elements = (List.range' 1 ((ofMarkup m).tree.size - 1)).filter
        (ofMarkup m).tree.isElement := hwalk.descendants_eq hlen
    rw [helements]
    exact List.Pairwise.filter _ List.pairwise_lt_range'

end Pinpoint
