/-
  Parts of a text by their place.

  1. A text occurs in another one exactly when it is a part of it (`occursIn_iff`).
  2. Cutting at a separator leaves the cuts of the two sides (`pieces_append_cons`).  So **a piece
     is a part without separators that is set off on both sides** by one, or by the end of the text
     (`mem_pieces_iff`), and a word is such a part between blanks (`mem_words_iff`).
-/
import Mathlib.Data.List.Infix
import Pinpoint.Text.Ascii
import Pinpoint.Text.Infix

namespace Pinpoint

/-! ## Occurrences

  They are looked for at every place from the front. -/

/-- **A text occurs in another one exactly when it is a part of it.** -/
theorem Text.occursIn_iff {w cs : List Char} : occursIn w cs = true ↔ w <:+: cs := by
  induction cs with
  | nil => simp [occursIn, List.isEmpty_iff, List.infix_nil]
  | cons c cs ih =>
    rw [occursIn, Bool.or_eq_true, List.isPrefixOf_iff_prefix, ih, List.infix_cons_iff]

namespace Ascii

variable {isSep : Char → Bool} {before after cs u v w : List Char} {c : Char}

/-! ## Pieces

  Pieces are cut off from the front, and may be empty.  What they are is said without an order of
  cutting, by what stands beside them. -/

/-- A text is cut as a list is split. -/
theorem pieces_eq_splitOnP (isSep : Char → Bool) (cs : List Char) :
    pieces isSep cs = cs.splitOnP isSep := by
  induction cs with
  | nil => rfl
  | cons c cs ih =>
    rw [pieces, List.splitOnP_cons_eq_if_modifyHead, ih]
    cases h : cs.splitOnP isSep with
    | nil => exact absurd h (List.splitOnP_ne_nil isSep cs)
    | cons w ws => rfl

/-- Cutting at a separator leaves the cuts of the two sides.  It does not matter which of the
    separators it is. -/
theorem pieces_append_cons (hc : isSep c = true) (u v : List Char) :
    pieces isSep (u ++ c :: v) = pieces isSep u ++ pieces isSep v := by
  rw [pieces_eq_splitOnP, pieces_eq_splitOnP, pieces_eq_splitOnP, List.splitOnP_append_cons u v hc]

/-- A text without separators is one piece. -/
theorem pieces_eq_singleton (h : ∀ c ∈ w, isSep c = false) : pieces isSep w = [w] := by
  rw [pieces_eq_splitOnP, List.splitOnP_eq_singleton h]

/-- Are the characters next to a part separators, as far as there are any? -/
def SetOff (isSep : Char → Bool) (before after : List Char) : Prop :=
  (∀ c ∈ before.getLast?, isSep c = true) ∧ ∀ c ∈ after.head?, isSep c = true

/-- A part stays set off when a separator and more follow. -/
theorem SetOff.append_cons (h : SetOff isSep before after) (hc : isSep c = true) (v : List Char) :
    SetOff isSep before (after ++ c :: v) := by
  refine ⟨h.1, ?_⟩
  cases after with
  | nil => simpa using hc
  | cons z after => exact h.2

/-- A part stays set off when a separator comes before it, and more before that. -/
theorem SetOff.cons_append (h : SetOff isSep before after) (hc : isSep c = true) (u : List Char) :
    SetOff isSep (u ++ c :: before) after := by
  refine ⟨fun z hz => ?_, h.2⟩
  rw [List.getLast?_append, List.getLast?_cons, Option.some_or, Option.mem_some_iff] at hz
  subst hz
  cases hlast : before.getLast? with
  | none => exact hc
  | some y => exact h.1 y hlast

/-- A part that is set off is a piece.  The separators beside it are two of the cuts. -/
theorem mem_pieces_of_setOff (hw : ∀ c ∈ w, isSep c = false) (h : SetOff isSep before after) :
    w ∈ pieces isSep (before ++ (w ++ after)) := by
  have hmem : w ∈ pieces isSep (w ++ after) := by
    cases after with
    | nil =>
      rw [List.append_nil, pieces_eq_singleton hw]
      exact List.mem_singleton_self w
    | cons c after =>
      rw [pieces_append_cons (h.2 c rfl), pieces_eq_singleton hw]
      exact List.mem_cons_self
  rcases List.eq_nil_or_concat before with rfl | ⟨u, c, rfl⟩
  · exact hmem
  · have hc : isSep c = true := h.1 c (by simp)
    rw [List.concat_eq_append, List.append_assoc, List.singleton_append, pieces_append_cons hc]
    exact List.mem_append_right _ hmem

/-- A piece is a part that is set off.  The induction is on the length of the text, which is cut at
    any of its separators. -/
theorem exists_setOff_of_mem_pieces (h : w ∈ pieces isSep cs) :
    (∀ c ∈ w, isSep c = false) ∧
      ∃ before after, cs = before ++ (w ++ after) ∧ SetOff isSep before after := by
  induction hn : cs.length using Nat.strongRecOn generalizing cs with
  | _ n ih =>
    subst hn
    by_cases hsep : ∃ c ∈ cs, isSep c = true
    · obtain ⟨c, hmem, hc⟩ := hsep
      obtain ⟨u, v, rfl⟩ := List.append_of_mem hmem
      have hlen : (u ++ c :: v).length = u.length + v.length + 1 := by
        rw [List.length_append, List.length_cons, Nat.add_assoc]
      rw [pieces_append_cons hc, List.mem_append] at h
      -- a piece of either side is set off in it; what the other side adds is beyond the separator
      rcases h with h | h
      · obtain ⟨hw, before, after, rfl, hset⟩ := ih u.length (by omega) h rfl
        exact ⟨hw, before, after ++ c :: v, by simp, hset.append_cons hc v⟩
      · obtain ⟨hw, before, after, rfl, hset⟩ := ih v.length (by omega) h rfl
        exact ⟨hw, u ++ c :: before, after, by simp, hset.cons_append hc u⟩
    · have hnone : ∀ c ∈ cs, isSep c = false := by simpa using hsep
      rw [pieces_eq_singleton hnone, List.mem_singleton] at h
      subst h
      exact ⟨hnone, [], [], by simp, by simp [SetOff]⟩

/-- **A piece is a part without separators that is set off on both sides.** -/
theorem mem_pieces_iff : w ∈ pieces isSep cs ↔ (∀ c ∈ w, isSep c = false) ∧
    ∃ before after, cs = before ++ (w ++ after) ∧ SetOff isSep before after := by
  constructor
  · exact exists_setOff_of_mem_pieces
  · rintro ⟨hw, before, after, rfl, h⟩
    exact mem_pieces_of_setOff hw h

/-! ## Words

  Words are the pieces between blanks that are not empty. -/

/-- **A word is a part between blanks**, without blanks and not empty. -/
theorem mem_words_iff {s t : String} : s ∈ words t ↔
    s.toList ≠ [] ∧ (∀ c ∈ s.toList, isBlank c = false) ∧
      ∃ before after, t.toList = before ++ (s.toList ++ after) ∧ SetOff isBlank before after := by
  rw [← mem_pieces_iff]
  constructor
  · intro h
    obtain ⟨w, hw, rfl⟩ := List.mem_map.1 h
    obtain ⟨hmem, hne⟩ := List.mem_filter.1 hw
    rw [String.toList_ofList]
    exact ⟨by simpa using hne, hmem⟩
  · rintro ⟨hne, hmem⟩
    refine List.mem_map.2 ⟨s.toList, List.mem_filter.2 ⟨hmem, ?_⟩, String.ofList_toList⟩
    simpa using hne

end Ascii

end Pinpoint
