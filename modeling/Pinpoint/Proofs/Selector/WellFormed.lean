/-
  What reading answers.

  Every reader makes something well-formed, whatever text it is given, and each has its own reason
  for it: a name without characters is refused, tags and attribute names are put into lower case, a
  test without a comparison is closed before the letter for case is looked for, a star or a tag is
  looked for at the start of a compound only, and a compound without conditions is refused.

  1. Names and tests.
  2. Conditions and compounds.
  3. Alternatives and selectors (`Selector.wellFormed_of_parse`).
-/
import Pinpoint.Proofs.Selector.Appending
import Pinpoint.Selector.Printer

namespace Pinpoint

/-! ## Names and tests

  The readers are sequences of smaller ones, so each proof takes a reading apart in the order in
  which it was made (`bind_ok_iff`) and keeps of every part what the next one needs. -/

namespace Ascii

/-- Putting a name into lower case loses no character. -/
theorem lower_ne_empty {w : String} (hw : w ≠ "") : lower w ≠ "" := by
  rwa [lower, Ne, String.ofList_eq_empty_iff, List.map_eq_nil_iff, String.toList_eq_nil_iff]

theorem isLowerName_lower (w : String) : isLowerName (lower w) = true := by
  rw [isLowerName, List.all_eq_true]
  intro c hc
  rw [not_isUpper_lower c hc]; rfl

end Ascii

namespace Reader

variable {s rest : List Char}

/-- A name that has been read has a character: a text that does not start with one is refused. -/
theorem name_ne_empty {w : String} (h : name s = .ok (w, rest)) : w ≠ "" := by
  obtain ⟨⟨cs, r⟩, -, h⟩ := bind_ok_iff.1 h
  dsimp only at h
  split at h
  · cases h
  · rename_i hne
    cases h
    rwa [List.isEmpty_iff, ← String.ofList_eq_empty_iff] at hne

/-- So has an identifier, which is a name that does not start like a number. -/
theorem ident_ne_empty {w : String} (h : ident s = .ok (w, rest)) : w ≠ "" := by
  obtain ⟨⟨v, r⟩, hname, h⟩ := bind_ok_iff.1 h
  dsimp only at h
  split at h
  · cases h
  · cases h
    exact name_ne_empty hname

/-- **An attribute test is well-formed.**  Its name is put into lower case when it is read, and the
    letter for case can only follow a comparison: without one the bracket is closed at once. -/
theorem wellFormed_of_attributeTest {t : AttributeTest} (h : attributeTest s = .ok (t, rest)) :
    (Component.attribute t).WellFormed := by
  obtain ⟨⟨w, r⟩, hw, h⟩ := bind_ok_iff.1 h
  have hname := Ascii.lower_ne_empty (ident_ne_empty hw)
  have hlower := Ascii.isLowerName_lower w
  dsimp only at h
  split at h
  · cases h
    -- closed at once: a test for presence, which has no letter for case
    exact ⟨hname, hlower, fun _ => rfl⟩
  · obtain ⟨⟨op, r₁⟩, -, h⟩ := bind_ok_iff.1 h
    obtain ⟨⟨v, r₂⟩, -, h⟩ := bind_ok_iff.1 h
    obtain ⟨r₃, -, h⟩ := bind_ok_iff.1 h
    cases h
    exact ⟨hname, hlower, nofun⟩

/-! ## Conditions and compounds

  A compound is a front, which may be a star or a tag, and conditions.  That no star and no tag
  stands further back is known from the condition's first character alone. -/

/-- A condition behind the first place of a compound is no star and no tag. -/
theorem wellFormed_of_condition? {c : Component} (h : condition? s = some (.ok (c, rest))) :
    c.WellFormed ∧ c.isLeading = false := by
  fun_cases condition? s with
  | case1 t =>
    obtain ⟨⟨w, r⟩, hr, h⟩ := map_ok_iff.1 (Option.some.inj h)
    cases h
    exact ⟨name_ne_empty hr, rfl⟩
  | case2 t =>
    obtain ⟨⟨w, r⟩, hr, h⟩ := map_ok_iff.1 (Option.some.inj h)
    cases h
    exact ⟨ident_ne_empty hr, rfl⟩
  | case3 t =>
    obtain ⟨⟨w, r⟩, hr, h⟩ := map_ok_iff.1 (Option.some.inj h)
    cases h
    exact ⟨wellFormed_of_attributeTest hr, rfl⟩
  | case4 t =>
    obtain ⟨⟨w, r⟩, hr, h⟩ := map_ok_iff.1 (Option.some.inj h)
    cases h
    exact ⟨trivial, rfl⟩
  -- any other first character makes no condition
  | case5 => simp_all [condition?]

/-- The conditions of a compound, one after the other: none of them leads. -/
theorem wellFormed_of_conditions {cs : List Component} (h : conditions s = .ok (cs, rest)) :
    ∀ c ∈ cs, c.WellFormed ∧ c.isLeading = false := by
  fun_induction conditions s generalizing cs rest with
  | case1 => cases h; exact List.forall_mem_nil _
  | case2 => cases h
  | case3 s c r hc ih =>
    obtain ⟨⟨cs', r'⟩, hr, h⟩ := bind_ok_iff.1 h
    cases h
    exact List.forall_mem_cons.2 ⟨wellFormed_of_condition? hc, ih hr⟩

/-- What leads a compound is nothing, or one star or tag. -/
theorem wellFormed_of_leading {front : List Component} (h : leading s = .ok (front, rest)) :
    front = [] ∨ ∃ c, front = [c] ∧ c.WellFormed := by
  cases s with
  | nil => cases h; exact Or.inl rfl
  | cons c t =>
    simp only [leading] at h
    split at h
    · cases h
      exact Or.inr ⟨_, rfl, trivial⟩
    · split at h
      · obtain ⟨⟨w, r⟩, hr, h⟩ := map_ok_iff.1 h
        cases h
        exact Or.inr ⟨_, rfl, Ascii.lower_ne_empty (ident_ne_empty hr), Ascii.isLowerName_lower w⟩
      · cases h
        exact Or.inl rfl

/-- **A compound is well-formed**: there is something in it, and no star and no tag but at its
    front.  With nothing at the front, the first condition stands there, and it is none of the
    two. -/
theorem wellFormed_of_compound {k : Compound} (h : compound s = .ok (k, rest)) :
    Compound.WellFormed k := by
  obtain ⟨⟨front, r⟩, hfront, h⟩ := bind_ok_iff.1 h
  obtain ⟨⟨cs, r'⟩, hcs, h⟩ := bind_ok_iff.1 h
  dsimp only at h
  split at h
  · cases h
  · rename_i hne
    cases h
    rw [List.isEmpty_iff] at hne
    have hlater := wellFormed_of_conditions hcs
    -- the front is empty, or it is the one star or tag that may lead
    rcases wellFormed_of_leading hfront with rfl | ⟨c, rfl, hc⟩
    · exact ⟨hne, fun x hx => (hlater x hx).1, fun x hx => (hlater x (List.mem_of_mem_tail hx)).2⟩
    · exact ⟨hne, List.forall_mem_cons.2 ⟨hc, fun x hx => (hlater x hx).1⟩,
        fun x hx => (hlater x hx).2⟩

/-! ## Alternatives and selectors -/

/-- Each part behind the first is linked to the one before, because the link is read first. -/
theorem wellFormed_of_laterParts {ps : List Part} (h : laterParts s = .ok (ps, rest)) :
    ∀ p ∈ ps, p.combinator ≠ none ∧ Compound.WellFormed p.compound := by
  fun_induction laterParts s generalizing ps rest with
  | case1 => cases h
  | case2 => cases h; exact List.forall_mem_nil _
  | case3 => cases h
  | case4 s op start hl k r hk ih =>
    obtain ⟨⟨ps', r'⟩, hr, h⟩ := bind_ok_iff.1 h
    cases h
    exact List.forall_mem_cons.2 ⟨⟨Option.some_ne_none op, wellFormed_of_compound hk⟩, ih hr⟩

/-- An alternative starts with a part that is linked to nothing. -/
theorem wellFormed_of_complex {x : Complex} (h : complex s = .ok (x, rest)) :
    Complex.WellFormed x := by
  obtain ⟨⟨k, r⟩, hk, h⟩ := bind_ok_iff.1 h
  obtain ⟨⟨ps, r'⟩, hps, h⟩ := bind_ok_iff.1 h
  cases h
  exact ⟨rfl, wellFormed_of_compound hk, wellFormed_of_laterParts hps⟩

/-- Every alternative is well-formed, and there is one at least: even behind a last comma one is
    asked for, and its fault ends the reading. -/
theorem wellFormed_of_alternatives {x : Selector} (h : alternatives s = .ok x) : x.WellFormed := by
  fun_induction alternatives s generalizing x with
  | case1 => cases h
  | case2 s y hy =>
    cases h
    exact ⟨List.cons_ne_nil _ _, List.forall_mem_singleton.2 (wellFormed_of_complex hy)⟩
  | case3 s y rest hy ih =>
    obtain ⟨ys, hys, h⟩ := map_ok_iff.1 h
    cases h
    exact ⟨List.cons_ne_nil _ _, List.forall_mem_cons.2 ⟨wellFormed_of_complex hy, (ih hys).2⟩⟩
  | case4 => cases h

end Reader

/-- **What is read is well-formed**, whatever the text is. -/
theorem Selector.wellFormed_of_parse {text : String} {s : Selector}
    (h : Selector.parse text = .ok s) : s.WellFormed := by
  unfold Selector.parse at h
  split at h
  · cases h
  · exact Reader.wellFormed_of_alternatives (mapError_ok_iff.1 h)

end Pinpoint
