/-
  The names that the nodes of a tree refer to.

  1. A table holds no name twice, so different places in it read differently.
  2. **Every place that a node refers to is in the table** (`WellNamed`), after any edits.
-/
import Pinpoint.Proofs.Document.Contents

namespace Pinpoint

/-! ## Distinct names

  The table is a list, and a name is looked for before it is added. -/

namespace NameTable

variable {t : NameTable} {i j : NameId}

/-- Entering a name adds it only where it is not in the table yet. -/
theorem nodup_intern (h : t.names.Nodup) (name : String) : (t.intern name).2.names.Nodup := by
  unfold intern
  split
  · exact h
  · rename_i hnone
    have hnew : name ∉ t.names := List.idxOf?_eq_none_iff.1 hnone
    show (t.names ++ [name]).Nodup
    rw [← List.concat_eq_append]
    exact h.concat hnew

/-- Different places read differently. -/
theorem resolve_inj (h : t.names.Nodup) (hi : i < t.size) (hj : j < t.size) :
    t.resolve i = t.resolve j ↔ i = j := by
  have hi : i < t.names.length := hi
  have hj : j < t.names.length := hj
  rw [resolve, resolve, List.getElem?_eq_getElem hi, List.getElem?_eq_getElem hj, Option.getD_some,
    Option.getD_some]
  exact h.getElem_inj_iff

end NameTable

/-! ## Names in use

  Elements refer to the name of their tag and to those of their attributes, a doctype to its own;
  other nodes have no names. -/

/-- The places of the names that a node refers to. -/
def Content.nameIds : Content → List NameId
  | .element e => e.name :: e.attributes.map Attribute.name
  | .doctype name => [name]
  | _ => []

/-- Setting an attribute of an element brings in one name at most. -/
theorem Element.mem_names_putAttribute {name n : NameId} {value : String}
    {attributes : List Attribute}
    (h : n ∈ (putAttribute name value attributes).map Attribute.name) :
    n = name ∨ n ∈ attributes.map Attribute.name := by
  induction attributes with
  | nil =>
    rw [putAttribute, List.map_singleton, List.mem_singleton] at h
    exact Or.inl h
  | cons a rest ih =>
    rw [putAttribute] at h
    split at h
    · rw [List.map_cons, List.mem_cons] at h
      exact h.imp_right (List.mem_cons_of_mem _)
    · rw [List.map_cons, List.mem_cons] at h ⊢
      rcases h with rfl | h
      · exact Or.inr (Or.inl rfl)
      · exact (ih h).imp_right Or.inr

namespace Tree

variable {t t' : Tree} {i : NodeId} {c : Content} {n : NameId}

/-- Setting an attribute brings in the name of that attribute alone. -/
theorem mem_nameIds_withAttribute {name : NameId} {spelling value : String}
    (h : n ∈ (Content.withAttribute name spelling value c).nameIds) :
    n = name ∨ n ∈ c.nameIds := by
  cases c with
  | element e =>
    rcases List.mem_cons.1 h with rfl | h
    · exact Or.inr List.mem_cons_self
    · exact (Element.mem_names_putAttribute h).imp_right (List.mem_cons_of_mem _)
  | _ => exact Or.inr h

/-- No name is in the table twice, and the nodes refer to names that it holds.  The second part is
    what makes it safe to read a place without asking whether it is there. -/
structure WellNamed (t : Tree) : Prop where
  nodup : t.names.names.Nodup
  lt_size : ∀ i c, t.content? i = some c → ∀ n ∈ c.nameIds, n < t.names.size

namespace WellNamed

/-- The table starts with the names that are used everywhere, each once, and the document node has
    none. -/
theorem empty : WellNamed Tree.empty where
  nodup := by decide
  lt_size i c hc n hn := by
    cases i with
    | zero => cases hc; cases hn
    | succ i => cases hc

/-- Where names are only added, it is enough that the names new to a node are in the table.  The
    others were there before, and stay in their places. -/
theorem of_contents (h : t.WellNamed) (hnodup : t'.names.names.Nodup)
    (hnames : t.names.names <+: t'.names.names)
    (hnew : ∀ i c', t'.content? i = some c' → ∀ n ∈ c'.nameIds,
      n < t'.names.size ∨ ∃ c, t.content? i = some c ∧ n ∈ c.nameIds) : t'.WellNamed where
  nodup := hnodup
  lt_size i c' hc' n hn := by
    rcases hnew i c' hc' n hn with hlt | ⟨c, hc, hn⟩
    · exact hlt
    · exact Nat.lt_of_lt_of_le (h.lt_size i c hc n hn) hnames.length_le

/-- A new node whose names are in the table. -/
theorem push (h : t.WellNamed) (hpush : t'.nodes = t.nodes.push (.detached c))
    (hnodup : t'.names.names.Nodup) (hnames : t.names.names <+: t'.names.names)
    (hc : ∀ n ∈ c.nameIds, n < t'.names.size) : t'.WellNamed := by
  refine h.of_contents hnodup hnames fun i c' hc' n hn => ?_
  rw [content?_of_push hpush] at hc'
  split at hc'
  · cases hc'
    exact Or.inl (hc n hn)
  · exact Or.inr ⟨c', hc', hn⟩

/-- **Every edit keeps the names in order.**  Three of the edits enter a name, and the nodes that
    they make or change refer to the place it was given. -/
theorem apply (h : t.WellNamed) (e : Edit) : (t.apply e).WellNamed := by
  rcases e with tag | value | value | name | ⟨node, name, value⟩ | ⟨parent, child⟩
  · show (t.addElement tag).2.WellNamed
    refine h.push rfl (NameTable.nodup_intern h.nodup _) (NameTable.names_prefix_intern _ _) ?_
    intro n hn
    rw [List.mem_singleton.1 hn]
    exact (NameTable.resolve_intern t.names (Ascii.lower tag)).1
  · show (t.addText value).2.WellNamed
    exact h.push rfl h.nodup (List.prefix_refl _) fun n hn => absurd hn List.not_mem_nil
  · show (t.addComment value).2.WellNamed
    exact h.push rfl h.nodup (List.prefix_refl _) fun n hn => absurd hn List.not_mem_nil
  · show (t.addDoctype name).2.WellNamed
    refine h.push rfl (NameTable.nodup_intern h.nodup _) (NameTable.names_prefix_intern _ _) ?_
    intro n hn
    rw [List.mem_singleton.1 hn]
    exact (NameTable.resolve_intern t.names name).1
  · show (t.setAttribute node name value).WellNamed
    refine h.of_contents (NameTable.nodup_intern h.nodup name)
      (NameTable.names_prefix_intern _ name) fun i c' hc' n hn => ?_
    rw [content?_setAttribute] at hc'
    split at hc'
    · obtain ⟨c, hc, rfl⟩ := Option.map_eq_some_iff.1 hc'
      -- a name of the node is the one just entered, or one that it had
      rcases mem_nameIds_withAttribute hn with rfl | hn
      · exact Or.inl (NameTable.resolve_intern t.names name).1
      · exact Or.inr ⟨c, hc, hn⟩
    · exact Or.inr ⟨c', hc', hn⟩
  · show (t.append parent child).WellNamed
    have hnames : (t.append parent child).names = t.names := names_append t parent child
    refine h.of_contents (hnames ▸ h.nodup) (hnames ▸ List.prefix_refl _) fun i c' hc' n hn => ?_
    rw [content?_append] at hc'
    exact Or.inr ⟨c', hc', hn⟩

end WellNamed

/-- So it is in every tree in use. -/
theorem Reachable.wellNamed (ht : t.Reachable) : t.WellNamed :=
  ht.induction WellNamed.empty fun _ e _ h => h.apply e

end Tree

end Pinpoint
