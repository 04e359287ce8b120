/-
  The attributes of an element, set one after the other.

  1. On pairs of names and values, setting replaces the value at the first pair of the name, or adds
     a pair at the end (`putPair`).  **Pairs set one after the other leave `lastValues`.**
  2. An element keeps its attributes by the places of their names.  Different places have different
     names, so the pairs that it shows follow the attributes that it is given.
-/
import Mathlib.Data.List.Induction
import Pinpoint.Markup.Kept
import Pinpoint.Proofs.Document.Names

namespace Pinpoint

/-! ## Pairs

  The attributes of a tag are written as pairs and may repeat a name.  They are set in their order,
  and this section says what is left of them, before any name is entered in a table. -/

namespace Markup

variable {m n v w : String} {pairs : List (String × String)}

/-- Replace the value of the first pair of that name; a new name goes to the end. -/
def putPair (name value : String) : List (String × String) → List (String × String)
  | [] => [(name, value)]
  | p :: rest => if p.1 = name then (name, value) :: rest else p :: putPair name value rest

/-- Setting a value does not touch pairs of other names. -/
theorem filter_putPair_self (n v : String) (pairs : List (String × String)) :
    (putPair n v pairs).filter (·.1 ≠ n) = pairs.filter (·.1 ≠ n) := by
  induction pairs with
  | nil => simp [putPair]
  | cons p rest ih =>
    rw [putPair]
    split
    · rename_i hp
      simp [hp]
    · rw [List.filter_cons, List.filter_cons, ih]

/-- Pairs of some other name can be removed before or after. -/
theorem filter_putPair (h : n ≠ m) :
    (putPair n v pairs).filter (·.1 ≠ m) = putPair n v (pairs.filter (·.1 ≠ m)) := by
  induction pairs with
  | nil => simp [putPair, h]
  | cons p rest ih =>
    by_cases hn : p.1 = n
    · have hm : p.1 ≠ m := hn ▸ h
      simp [putPair, hn, h]
    · by_cases hm : p.1 = m
      · simpa [putPair, hn, hm, h.symm] using ih
      · simpa [putPair, hn, hm] using ih

/-- The last value of a name, after one more pair. -/
theorem lookup_reverse_concat (pairs : List (String × String)) (n v m : String) :
    (pairs ++ [(n, v)]).reverse.lookup m = if n = m then some v else pairs.reverse.lookup m := by
  rw [List.reverse_append, List.reverse_singleton, List.singleton_append, List.lookup_cons]
  by_cases h : n = m
  · subst h
    simp
  · have hne : (m == n) = false := beq_false_of_ne fun he => h he.symm
    simp [h, hne]

/-- One more pair.  By induction on the pairs: the first one of the list keeps its place, and its
    value is the new one if the name is the same. -/
theorem putPair_lastValues (n v : String) (pairs : List (String × String)) :
    putPair n v (lastValues pairs) = lastValues (pairs ++ [(n, v)]) := by
  induction pairs with
  | nil => rfl
  | cons p rest ih =>
    obtain ⟨m, w⟩ := p
    rw [List.cons_append, lastValues, lastValues, putPair, ← ih, lookup_reverse_concat]
    by_cases h : n = m
    · subst h
      rw [if_pos rfl, if_pos rfl, filter_putPair_self, Option.getD_some]
    · rw [if_neg (fun he => h he.symm), if_neg h, filter_putPair h]

/-- **Pairs set one after the other**: the first of a name gives it its place, the last its
    value. -/
theorem foldl_putPair (pairs : List (String × String)) :
    pairs.foldl (fun shown p => putPair p.1 p.2 shown) [] = lastValues pairs := by
  induction pairs using List.reverseRecOn with
  | nil => rfl
  | append_singleton pairs p ih =>
    rw [List.foldl_concat, ih, putPair_lastValues]

end Markup

/-! ## Attributes as pairs

  An element does not hold pairs.  What it shows are the pairs that its attributes stand for in the
  table. -/

namespace NameTable

variable {t t' : NameTable} {attributes : List Attribute}

/-- What is shown stays, whatever names are added. -/
theorem map_pair_of_prefix (h : t.names <+: t'.names)
    (hlt : ∀ n ∈ attributes.map Attribute.name, n < t.size) :
    attributes.map t'.pair = attributes.map t.pair := by
  refine List.map_congr_left fun a ha => ?_
  rw [pair, pair, resolve_of_prefix h (hlt _ (List.mem_map_of_mem ha))]

/-- **Setting an attribute sets a pair.**  The element looks for the place of the name, and what it
    shows is looked through for the name; in a table without repetitions both find the same one. -/
theorem map_pair_putAttribute (hnodup : t.names.Nodup) {name : NameId} (hname : name < t.size)
    (hlt : ∀ n ∈ attributes.map Attribute.name, n < t.size) (value : String) :
    (Element.putAttribute name value attributes).map t.pair =
      Markup.putPair (t.resolve name) value (attributes.map t.pair) := by
  induction attributes with
  | nil => rfl
  | cons a rest ih =>
    rw [List.map_cons, List.forall_mem_cons] at hlt
    obtain ⟨ha, hrest⟩ := hlt
    have hsame : (t.pair a).1 = t.resolve name ↔ a.name = name := resolve_inj hnodup ha hname
    rw [Element.putAttribute, List.map_cons, Markup.putPair]
    by_cases h : a.name = name
    · rw [if_pos h, if_pos (hsame.2 h)]
      rfl
    · rw [if_neg h, if_neg (fun hn => h (hsame.1 hn)), List.map_cons, ih hrest]

end NameTable

end Pinpoint
