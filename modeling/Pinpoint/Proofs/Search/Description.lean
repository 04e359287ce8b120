/-
  Every candidate is what is written for a description.

  1. A pick takes one item from each list, and so a compound takes one text from each.
  2. So a candidate takes at most one text from each group, in the order of the groups.
  3. A text of a group was made from values of the element: a token from one value, a text of
     classes or of attributes from several, not more than are allowed.
  4. **The values picked are a description of the element that the options allow, and the candidate
     is its text** (`exists_description`).
-/
import Mathlib.Data.List.Forall2
import Pinpoint.Proofs.Search.Candidate
import Pinpoint.Search.Description

namespace Pinpoint

/-! ## Picks

  From a compound back to the texts it is made of.  The mix names some groups only; what follows
  wants one entry for each group, so a group that is left out is given an empty entry. -/

section Picks

variable {α β : Type}

/-- A pick has one item of each list, in the order of the lists. -/
theorem mem_picks_iff {lists : List (List α)} {p : List α} :
    p ∈ picks lists ↔ List.Forall₂ (fun items x => x ∈ items) lists p := by
  induction lists generalizing p with
  | nil => rw [picks, List.mem_singleton, List.forall₂_nil_left_iff]
  | cons items later ih =>
    simp only [picks, List.mem_flatMap, List.mem_map, List.forall₂_cons_left_iff, ih]
    constructor
    · rintro ⟨rest, hrest, x, hx, rfl⟩
      exact ⟨x, rest, hx, hrest, rfl⟩
    · rintro ⟨x, rest, hx, hrest, rfl⟩
      exact ⟨rest, hrest, x, hx, rfl⟩

/-- **A compound takes one text from each list**, and writes them one after the other. -/
theorem exists_picks_of_mem_compounds {lists : List (List String)} (hne : lists ≠ [])
    (hlists : ∀ texts ∈ lists, texts ≠ []) {s : String} (hs : s ∈ compounds lists) :
    ∃ picks, List.Forall₂ (fun texts t => t ∈ texts) lists picks ∧ s = String.join picks := by
  rw [compounds_eq_map_picks hne hlists] at hs
  obtain ⟨p, hp, rfl⟩ := List.mem_map.1 hs
  exact ⟨p, mem_picks_iff.1 hp, rfl⟩

/-- Picks for some of the items are picks for all of them, where an item may go without.  The
    induction is on the sublist: an item that it leaves out gets none. -/
theorem exists_options_of_sublist {R : α → β → Prop} {m items : List α} (hm : m.Sublist items)
    {picks : List β} (hpicks : List.Forall₂ R m picks) :
    ∃ chosen : List (Option β), List.Forall₂ (fun a x => ∀ b, x = some b → R a b) items chosen ∧
      picks = chosen.flatMap Option.toList := by
  induction hm generalizing picks with
  | slnil =>
    cases hpicks
    exact ⟨[], .nil, rfl⟩
  | cons a _ ih =>
    obtain ⟨chosen, hchosen, rfl⟩ := ih hpicks
    refine ⟨none :: chosen, .cons ?_ hchosen, rfl⟩
    intro b hb
    cases hb
  | cons_cons a _ ih =>
    obtain ⟨b, later, hb, hlater, rfl⟩ := List.forall₂_cons_left_iff.1 hpicks
    obtain ⟨chosen, hchosen, rfl⟩ := ih hlater
    refine ⟨some b :: chosen, .cons ?_ hchosen, rfl⟩
    rintro b' ⟨⟩
    exact hb

/-- Items that were all made in the same way are the images of what they were made from.  The makers
    are taken one by one, so no choice is needed. -/
theorem exists_eq_map {P : α → Prop} {f : α → β} {ys : List β}
    (h : ∀ y ∈ ys, ∃ x, P x ∧ y = f x) : ∃ xs : List α, ys = xs.map f ∧ ∀ x ∈ xs, P x := by
  induction ys with
  | nil => exact ⟨[], rfl, fun _ hx => absurd hx List.not_mem_nil⟩
  | cons y ys ih =>
    obtain ⟨x, hx, rfl⟩ := h y List.mem_cons_self
    obtain ⟨xs, rfl, hxs⟩ := ih fun y hy => h y (List.mem_cons_of_mem _ hy)
    refine ⟨x :: xs, rfl, fun x' hx' => ?_⟩
    rcases List.mem_cons.1 hx' with rfl | hx'
    · exact hx
    · exact hxs x' hx'

end Picks

/-! ## One text from each group

  The candidates of a level by the list of all groups, whatever the level. -/

/-- **A candidate takes at most one text from each group**, in their order. -/
theorem Tokens.exists_options_of_mem_candidates {t : Tokens} {o : Options} {kinds : List Kind}
    {s : String} (hs : s ∈ t.candidates o kinds) :
    ∃ chosen : List (Option String),
      List.Forall₂ (fun (g : Group) x => ∀ b, x = some b → g.1 ∈ kinds ∧ b ∈ g.2)
        (t.allGroups o.maxCombination) chosen ∧
      s = String.join (chosen.flatMap Option.toList) := by
  rw [candidates, List.mem_flatMap] at hs
  obtain ⟨m, hm, hs⟩ := hs
  obtain ⟨hgroups, hne⟩ := Options.mem_rankedMixes_iff.1 hm
  have hmem : ∀ g ∈ m, g.1 ∈ kinds ∧ g.2 ≠ [] := fun g hg => (mem_groups_iff.1 (hgroups.subset hg)).2
  have hkinds : ∀ g ∈ m, g.1 ∈ kinds := fun g hg => (hmem g hg).1
  have hlists : ∀ texts ∈ m.map (·.2), texts ≠ [] :=
    List.forall_mem_map.2 fun g hg => (hmem g hg).2
  obtain ⟨picks, hpicks, rfl⟩ :=
    exists_picks_of_mem_compounds (mt List.map_eq_nil_iff.1 hne) hlists hs
  rw [List.forall₂_map_left_iff] at hpicks
  obtain ⟨chosen, hchosen, rfl⟩ := exists_options_of_sublist (hgroups.trans List.filter_sublist)
    ((List.forall₂_and_left m picks).2 ⟨hkinds, hpicks⟩)
  exact ⟨chosen, hchosen, rfl⟩

/-! ## Values behind the texts

  A text of a group determines values it was made from.  Two shapes of groups are there: one token,
  or tokens joined in every way up to a limit. -/

section Values

variable {α : Type} {kinds : List Kind} {k : Kind} {x : Option String} {f : α → String}

/-- The text of one token was made from one value.  Where there is no text there is no value, and
    then nothing is said about the kind. -/
theorem exists_of_token {token : Option α}
    (hx : ∀ b, x = some b → k ∈ kinds ∧ b ∈ (token.map f).toList) :
    ∃ v : Option α, x.toList = v.toList.map f ∧ (v ≠ none → k ∈ kinds) ∧
      ∀ a, v = some a → token = some a := by
  cases x with
  | none => exact ⟨none, rfl, fun h => absurd rfl h, fun a ha => by cases ha⟩
  | some b =>
    obtain ⟨hk, hb⟩ := hx b rfl
    obtain ⟨a, ha, rfl⟩ := Option.map_eq_some_iff.1 (Option.mem_toList.1 hb)
    refine ⟨some a, rfl, fun _ => hk, ?_⟩
    rintro a' ⟨⟩
    exact ha

/-- A text of joined tokens was made from several values, not more than are allowed.  No text stands
    for no values. -/
theorem exists_of_joined {items : List String} {max : Nat} {P : α → Prop}
    (hx : ∀ b, x = some b → k ∈ kinds ∧ b ∈ joinedCombinations items 1 max)
    (hitems : ∀ y ∈ items, ∃ a, P a ∧ y = f a) :
    ∃ vs : List α, String.join x.toList = String.join (vs.map f) ∧ (vs ≠ [] → k ∈ kinds) ∧
      vs.length ≤ max ∧ ∀ a ∈ vs, P a := by
  cases x with
  | none =>
    exact ⟨[], rfl, fun h => absurd rfl h, Nat.zero_le _, fun _ ha => absurd ha List.not_mem_nil⟩
  | some b =>
    obtain ⟨hk, hb⟩ := hx b rfl
    obtain ⟨ys, hys, rfl⟩ := List.mem_map.1 hb
    obtain ⟨hsub, -, hlen⟩ := mem_combinations_iff.1 hys
    obtain ⟨vs, rfl, hvs⟩ := exists_eq_map fun y hy => hitems y (hsub.subset hy)
    rw [List.length_map] at hlen
    refine ⟨vs, ?_, fun _ => hk, hlen, hvs⟩
    rw [Option.toList_some, String.join_cons, String.join_nil, String.append_empty]

end Values

/-! ## Candidates

  What the tokens of an element were made from, and then the theorem of this module. -/

namespace Host

variable {E ε : Type} {h : Host E ε} {o : Options} {e : E} {kinds : List Kind} {s : String}

/-- What may be used is not excluded. -/
theorem not_excluded_of_isUsable {v : String} (hv : o.isUsable v = true) :
    o.isExcluded v = false := by
  rw [Options.isUsable, Bool.and_eq_true, Bool.not_eq_true', Bool.not_eq_true'] at hv
  exact hv.2

/-- A class token was made from a class of the element that is not excluded. -/
theorem exists_class_of_mem_tokens {y : String} (hy : y ∈ (h.tokens o e).classes) :
    ∃ v, (v ∈ h.classes e ∧ o.isExcluded v = false) ∧ y = "." ++ v := by
  rw [tokens, mem_distinct, List.mem_map] at hy
  obtain ⟨v, hv, rfl⟩ := hy
  obtain ⟨hmem, husable⟩ := List.mem_filter.1 hv
  exact ⟨v, ⟨hmem, not_excluded_of_isUsable husable⟩, rfl⟩

/-- An attribute token was made from an attribute of the element. -/
theorem exists_attribute_of_mem_tokens {y : String} (hy : y ∈ (h.tokens o e).attributes) :
    ∃ a, a ∈ h.attributes e ∧ y = attributeToken a := by
  rw [tokens, attributeTokens, List.mem_filterMap] at hy
  obtain ⟨p, -, hp⟩ := hy
  obtain ⟨a, ha, rfl⟩ := Option.map_eq_some_iff.1 hp
  exact ⟨a, List.mem_of_find?_eq_some ha, rfl⟩

/-- A text that goes on is not empty where it was not empty before. -/
theorem append_ne_empty {a b : String} (ha : a ≠ "") : a ++ b ≠ "" := by
  intro h
  exact ha (String.append_eq_empty_iff.1 h).1

/-- Some texts that are not empty make one that is not empty. -/
theorem join_ne_empty {texts : List String} (hne : texts ≠ []) (htexts : ∀ t ∈ texts, t ≠ "") :
    String.join texts ≠ "" := by
  obtain ⟨t, later, rfl⟩ := List.exists_cons_of_ne_nil hne
  rw [String.join_cons]
  exact append_ne_empty (htexts t List.mem_cons_self)

/-- The joined texts of a group take one item at least. -/
theorem joined_ne_empty {items : List String} {max : Nat} {b : String}
    (hitems : ∀ y ∈ items, y ≠ "") (hb : b ∈ joinedCombinations items 1 max) : b ≠ "" := by
  obtain ⟨ys, hys, rfl⟩ := List.mem_map.1 hb
  obtain ⟨hsub, hlen, -⟩ := mem_combinations_iff.1 hys
  exact join_ne_empty (List.length_pos_iff.1 hlen) fun y hy => hitems y (hsub.subset hy)

/-- An attribute token has its brackets. -/
theorem attributeToken_ne_empty (a : String × String) : attributeToken a ≠ "" := by
  have hbracket : "[" ≠ "" := by decide
  exact append_ne_empty (append_ne_empty (append_ne_empty (append_ne_empty hbracket)))

/-- A place is named by a word. -/
theorem Place.text_ne_empty (p : Place) : p.text ≠ "" := by
  have hnth : ":nth-child(" ≠ "" := by decide
  cases p with
  | first => decide
  | last => decide
  | nth number => exact append_ne_empty (append_ne_empty hnth)

/-- No candidate is the empty text.  This is so for every text of every group, and writing texts one
    after the other keeps it. -/
theorem ne_empty_of_mem_candidates (hs : s ∈ (h.tokens o e).candidates o kinds) : s ≠ "" := by
  refine Tokens.candidates_induction (P := fun s => s ≠ "") (fun a b ha _ => append_ne_empty ha)
    ?_ hs
  intro g hg hk b hb
  simp only [Tokens.allGroups, List.mem_cons, List.not_mem_nil, or_false] at hg
  rcases hg with rfl | rfl | rfl | rfl | rfl
  · rintro rfl
    simp at hb
  · obtain ⟨v, -, rfl⟩ := Option.map_eq_some_iff.1 (Option.mem_toList.1 hb)
    exact append_ne_empty (by decide)
  · refine joined_ne_empty (fun y hy => ?_) hb
    obtain ⟨v, -, rfl⟩ := exists_class_of_mem_tokens hy
    exact append_ne_empty (by decide)
  · refine joined_ne_empty (fun y hy => ?_) hb
    obtain ⟨a, -, rfl⟩ := exists_attribute_of_mem_tokens hy
    exact attributeToken_ne_empty a
  · obtain ⟨p, -, rfl⟩ := Option.map_eq_some_iff.1 (Option.mem_toList.1 hb)
    rw [nthChildToken_eq_text]
    exact Place.text_ne_empty _

/-- The token of a place is the text of the place. -/
theorem map_text_ofIndex (position : Option (Nat × Nat)) :
    (position.map fun p => Place.ofIndex p.1 p.2).toList.map Place.text =
      position.toList.map fun p => nthChildToken p.1 p.2 := by
  cases position with
  | none => rfl
  | some p => rw [Option.map_some, Option.toList_some, Option.toList_some, List.map_singleton,
      List.map_singleton, nthChildToken_eq_text]

/-- **Every candidate is the text of a description**: of this element, in kinds that are asked for,
    within the limits of the options.

    The five groups stand in a fixed order, and so do the fields of a description.  A choice of at
    most one text from each group gives the fields one by one; what a field says of the element and
    of the options comes with the text it was made from. -/
theorem exists_description (hkinds : ∀ k ∈ kinds, k ∈ o.kinds)
    (hs : s ∈ (h.tokens o e).candidates o kinds) :
    ∃ q : Description, q.IsOf h e ∧ q.AllowedBy o ∧ s = q.text := by
  obtain ⟨chosen, hchosen, rfl⟩ := Tokens.exists_options_of_mem_candidates hs
  -- one choice for each of the five groups
  simp only [Tokens.allGroups, List.forall₂_cons_left_iff, List.forall₂_nil_left_iff] at hchosen
  obtain ⟨tag, _, htag, ⟨id, _, hid, ⟨className, _, hclass, ⟨attr, _, hattr,
    ⟨place, _, hplace, rfl, rfl⟩, rfl⟩, rfl⟩, rfl⟩, rfl⟩ := hchosen
  obtain ⟨idValue, hidText, hidKind, hidValue⟩ := exists_of_token (f := ("#" ++ ·)) hid
  obtain ⟨classes, hclassText, hclassKind, hclassLen, hclasses⟩ :=
    exists_of_joined hclass fun y hy => exists_class_of_mem_tokens hy
  obtain ⟨attributes, hattrText, hattrKind, hattrLen, hattrs⟩ :=
    exists_of_joined hattr fun y hy => exists_attribute_of_mem_tokens hy
  obtain ⟨position, hplaceText, hplaceKind, hposition⟩ :=
    exists_of_token (f := fun p : Nat × Nat => nthChildToken p.1 p.2) hplace
  have hidOf : ∀ v, idValue = some v → h.id e = some v ∧ o.isExcluded v = false := by
    intro v hv
    obtain ⟨hmem, husable⟩ := Option.filter_eq_some_iff.1 (hidValue v hv)
    exact ⟨hmem, not_excluded_of_isUsable husable⟩
  have htagOf : ∀ w, tag = some w → .tag ∈ kinds ∧ w = Ascii.lower (h.tagName e) ∧ w ≠ "" := by
    intro w hw
    obtain ⟨hk, hmem⟩ := htag w hw
    split at hmem
    · cases hmem
    · rename_i hne
      rw [List.mem_singleton] at hmem
      subst hmem
      exact ⟨hk, rfl, fun hempty => hne (by rw [hempty]; rfl)⟩
  -- of the element; then allowed by the options; then the text
  refine ⟨⟨tag, idValue, classes, attributes, position.map fun p => Place.ofIndex p.1 p.2⟩,
    ⟨?_, ?_, ?_, ?_, ?_⟩, ⟨?_, ?_, ?_, ?_, ?_, ?_, ?_, ?_, ?_⟩, ?_⟩
  · exact fun w hw => (htagOf w hw).2
  · exact fun v hv => (hidOf v hv).1
  · exact fun v hv => (hclasses v hv).1
  · exact hattrs
  · intro p hp
    obtain ⟨⟨index, count⟩, hat, rfl⟩ := Option.map_eq_some_iff.1 hp
    exact ⟨index, count, hposition _ hat, rfl⟩
  · intro hne
    obtain ⟨w, hw⟩ := Option.ne_none_iff_exists'.1 hne
    exact hkinds _ (htagOf w hw).1
  · exact fun hne => hkinds _ (hidKind hne)
  · exact fun hne => hkinds _ (hclassKind hne)
  · exact fun hne => hkinds _ (hattrKind hne)
  · intro hne
    exact hkinds _ (hplaceKind fun hnone => hne (by rw [hnone]; rfl))
  · exact hclassLen
  · exact hattrLen
  · exact fun v hv => (hidOf v hv).2
  · exact fun v hv => (hclasses v hv).2
  · rw [Description.text, Description.tokens, map_text_ofIndex, ← hplaceText]
    simp only [List.flatMap_cons, List.flatMap_nil, String.join_append, hidText, hclassText,
      hattrText, String.append_assoc, String.join_nil, String.append_empty]

end Host

end Pinpoint
