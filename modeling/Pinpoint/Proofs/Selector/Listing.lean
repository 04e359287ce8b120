/-
  Selectors side by side.

  1. A comma is a stop, like a space, and it ends an alternative as the end of the text does.  So an
     alternative is read the same way before a comma, whatever was left behind it
     (`complex_comma`).
  2. **Two selectors with a comma between them are read as the alternatives of the one and then
     those of the other** (`parse_comma`).  The induction is on the alternatives of the first.
-/
import Pinpoint.Proofs.Selector.Appending
import Pinpoint.Selector.Matching

namespace Pinpoint

namespace Reader

variable {s u rest : List Char}

/-! ## Alternatives before a comma

  What is shown of a space in the module on appending is shown of a comma here. -/

/-- A comma stops every reader of a compound. -/
theorem stops_comma : Stops ',' :=
  ⟨by decide, by decide, by decide, by decide, fun u => by simp [condition?], by decide⟩

/-- No blank is skipped behind a comma that was not skipped before. -/
theorem skipBlanks_comma (s u : List Char) :
    skipBlanks (s ++ ',' :: u) = skipBlanks s ++ ',' :: u := by
  by_cases h : skipBlanks s = []
  · rw [skipBlanks_append_of_nil h, h]
    rfl
  · exact skipBlanks_append h _

/-- Before a comma there is no link. -/
theorem link_eq_none_of_comma {t : List Char} (h : skipBlanks s = ',' :: t) :
    link s = .ok none := by
  rw [link, h]
  rfl

/-- The compounds of an alternative are read the same way before a comma.  By induction on the
    reading; each compound is followed by a link, by a comma, or by the end, and in the last case by
    the comma now. -/
theorem laterParts_comma {ps : List Part} (h : laterParts s = .ok (ps, rest)) (u : List Char) :
    laterParts (s ++ ',' :: u) = .ok (ps, rest ++ ',' :: u) := by
  fun_induction laterParts s generalizing ps rest with
  | case1 => cases h
  | case2 s hl =>
    cases h
    -- reading stopped at the end of the text or at a comma, and it does so again
    have hlink : link (s ++ ',' :: u) = .ok none := by
      rcases skipBlanks_of_link_none hl with hb | ⟨t, hb⟩
      · exact link_eq_none_of_comma (t := u) (by rw [skipBlanks_comma, hb]; rfl)
      · exact link_eq_none_of_comma (t := t ++ ',' :: u) (by rw [skipBlanks_comma, hb]; rfl)
    rw [laterParts_of_none hlink, skipBlanks_comma]
  | case3 => cases h
  | case4 s op start hl c r hc ih =>
    obtain ⟨⟨ps', r'⟩, hps, h⟩ := bind_ok_iff.1 h
    cases h
    rw [laterParts_of_some (link_append hl (compound_consumes hc).ne_nil _),
      compound_append stops_comma hc, ok_bind, ih hps]
    rfl

/-- **An alternative is read the same way before a comma.** -/
theorem complex_comma {x : Complex} (h : complex s = .ok (x, rest)) (u : List Char) :
    complex (s ++ ',' :: u) = .ok (x, rest ++ ',' :: u) := by
  rw [complex_eq] at h
  obtain ⟨⟨c, r⟩, hc, h⟩ := bind_ok_iff.1 h
  obtain ⟨⟨ps, r'⟩, hps, h⟩ := bind_ok_iff.1 h
  cases h
  rw [complex_eq, skipBlanks_comma, compound_append stops_comma hc, ok_bind, laterParts_comma hps]
  rfl

/-! ## Lists of alternatives

  The reader of alternatives goes on behind each comma. -/

/-- Behind a comma the other alternatives are read. -/
theorem alternatives_of_comma {x : Complex} (h : complex s = .ok (x, ',' :: rest)) :
    alternatives s = (alternatives rest).map (x :: ·) := by
  rw [alternatives.eq_def]
  split
  · simp_all
  · simp_all
  · rename_i y c t heq
    rw [h] at heq
    cases heq
    rw [if_pos rfl]

/-- **The alternatives before a comma come first, then those behind it.**  By induction on the first
    list: its last alternative ended with the text and now ends at the comma. -/
theorem alternatives_comma {xs ys : Selector} (h : alternatives s = .ok xs)
    (hu : alternatives u = .ok ys) : alternatives (s ++ ',' :: u) = .ok (xs ++ ys) := by
  fun_induction alternatives s generalizing xs with
  | case1 => cases h
  | case2 s x hx =>
    cases h
    rw [alternatives_of_comma (complex_comma hx u), hu]
    rfl
  | case3 s x r hx ih =>
    obtain ⟨xs', hxs, rfl⟩ := map_ok_iff.1 h
    have hcomplex : complex (s ++ ',' :: u) = .ok (x, ',' :: (r ++ ',' :: u)) := complex_comma hx u
    rw [alternatives_of_comma hcomplex, ih hxs]
    rfl
  | case4 => cases h

end Reader

/-! ## Selectors

  The blank texts are refused before the readers start, so neither of the two is blank, and neither
  is what they make together. -/

namespace Selector

/-- A text is a selector if it is not blank and its alternatives are read to the end. -/
theorem parse_eq_ok_iff {s : String} {x : Selector} :
    parse s = .ok x ↔ Text.isBlankText s = false ∧ Reader.alternatives s.toList = .ok x := by
  unfold parse
  cases hb : Text.isBlankText s with
  | true => simp
  | false => rw [if_neg Bool.false_ne_true, mapError_ok_iff, and_iff_right rfl]

/-- **Two selectors with a comma between them are read one after the other.** -/
theorem parse_comma {s₁ s₂ : String} {x₁ x₂ : Selector} (h₁ : parse s₁ = .ok x₁)
    (h₂ : parse s₂ = .ok x₂) : parse (s₁ ++ "," ++ s₂) = .ok (x₁ ++ x₂) := by
  obtain ⟨-, h₁⟩ := parse_eq_ok_iff.1 h₁
  obtain ⟨-, h₂⟩ := parse_eq_ok_iff.1 h₂
  have htext : (s₁ ++ "," ++ s₂).toList = s₁.toList ++ ',' :: s₂.toList := by simp
  have hcomma : Text.isSpace ',' = false := by decide
  refine parse_eq_ok_iff.2 ⟨?_, ?_⟩
  · rw [Text.isBlankText, htext, List.all_append, List.all_cons, hcomma, Bool.false_and,
      Bool.and_false]
  · rw [htext]
    exact Reader.alternatives_comma h₁ h₂

/-- An alternative of either list matches. -/
theorem matchesAt_append (t : Tree) (i : NodeId) (x₁ x₂ : Selector) :
    Selector.matchesAt t i (x₁ ++ x₂) = (x₁.matchesAt t i || x₂.matchesAt t i) :=
  List.any_append

end Selector

end Pinpoint
