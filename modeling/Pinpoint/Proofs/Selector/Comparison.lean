/-
  Attribute values compared with case and without.

  1. A comparison that holds has a place in the value: there the expected text stands, and beside it
     is what the comparison asks for (`Comparison.holds_iff`).
  2. Where case is ignored, the value is lowered as a whole.  What was a place is one still
     (`Comparison.Fits.lower`), but a sigma in it is lowered as what stands around it asks for.  So
     the expected text is found there again **if its sigmas have the form there that they have
     alone** (`Comparison.holds_lowerCase_of_sigmasKept`).
  3. A whole value, a word and a part before a dash have no letter beside them.  At the front and at
     the end of a value there is only one place, so there the condition is needed, too
     (`AttributeTest.accepts_ignoringCase`).
-/
import Pinpoint.Proofs.Text.LowerCase
import Pinpoint.Proofs.Text.Parts
import Pinpoint.Selector.Comparison

namespace Pinpoint

open Text (lowerBetween lowerCase SigmasKept)

/-! ## Places

  The place of a text in a value is what stands before it and after it. -/

namespace Comparison

variable {op : Comparison} {before after w : List Char} {expected value : String}

/-- Is a part of a value, between `before` and `after`, where the comparison looks for it? -/
def Fits (op : Comparison) (before w after : List Char) : Prop :=
  match op with
  | .equals => before = [] ∧ after = []
  | .includesWord =>
    w ≠ [] ∧ (∀ c ∈ w, Ascii.isBlank c = false) ∧ Ascii.SetOff Ascii.isBlank before after
  | .equalsOrDash => before = [] ∧ ∀ c ∈ after.head?, c = '-'
  | .startsWith => before = []
  | .endsWith => after = []
  | .contains => True

/-- **A comparison holds when the expected text has a place in the value.**  Each of the six
    operators looks for it in its own way, and for each of them this comes to a part of the value
    with something on both sides. -/
theorem holds_iff : op.holds expected value = true ↔ ∃ before after,
    value.toList = before ++ (expected.toList ++ after) ∧ op.Fits before expected.toList after := by
  cases op with
  | equals =>
    rw [holds, beq_iff_eq]
    constructor
    · rintro rfl
      exact ⟨[], [], by simp, rfl, rfl⟩
    · rintro ⟨_, _, hv, rfl, rfl⟩
      exact String.toList_inj.1 (by simpa using hv)
  | includesWord =>
    rw [holds, List.contains_iff_mem, Ascii.mem_words_iff]
    constructor
    · rintro ⟨hne, hw, before, after, hv, hset⟩
      exact ⟨before, after, hv, hne, hw, hset⟩
    · rintro ⟨before, after, hv, hne, hw, hset⟩
      exact ⟨hne, hw, before, after, hv, hset⟩
  | equalsOrDash =>
    rw [holds, Bool.or_eq_true, beq_iff_eq, List.isPrefixOf_iff_prefix]
    constructor
    · rintro (rfl | ⟨rest, hv⟩)
      · exact ⟨[], [], by simp, rfl, by simp⟩
      · exact ⟨[], '-' :: rest, by simp [← hv], rfl, by simp⟩
    · rintro ⟨_, after, hv, rfl, hdash⟩
      cases after with
      | nil => exact Or.inl (String.toList_inj.1 (by simpa using hv))
      | cons c rest =>
        obtain rfl : c = '-' := hdash c rfl
        exact Or.inr ⟨rest, by simp [hv]⟩
  | startsWith =>
    rw [holds, List.isPrefixOf_iff_prefix]
    constructor
    · rintro ⟨after, hv⟩
      exact ⟨[], after, hv.symm, rfl⟩
    · rintro ⟨_, after, hv, rfl⟩
      exact ⟨after, hv.symm⟩
  | endsWith =>
    rw [holds, List.isSuffixOf_iff_suffix]
    constructor
    · rintro ⟨before, hv⟩
      exact ⟨before, [], by simp [← hv], rfl⟩
    · rintro ⟨before, _, hv, rfl⟩
      exact ⟨before, by simp [hv]⟩
  | contains =>
    rw [holds, Text.occursIn_iff]
    constructor
    · rintro ⟨before, after, hv⟩
      exact ⟨before, after, by simp [← hv], trivial⟩
    · rintro ⟨before, after, hv, -⟩
      exact ⟨before, after, by simp [hv]⟩

/-! ## Places in lower case

  A capital sigma is lowered to its final form where a letter comes before it and none after it,
  with some signs passed over.  It is the only character for which the neighbours count. -/

/-- What is beside a word separates it. -/
theorem Fits.separates (hop : op = .equals ∨ op = .includesWord ∨ op = .equalsOrDash)
    (h : op.Fits before w after) :
    (∀ z ∈ before.getLast?, Text.Separates z) ∧ ∀ z ∈ after.head?, Text.Separates z := by
  rcases hop with rfl | rfl | rfl
  · obtain ⟨rfl, rfl⟩ := h
    simp
  · obtain ⟨-, -, hb, ha⟩ := h
    exact ⟨fun z hz => Text.separates_of_isBlank (hb z hz),
      fun z hz => Text.separates_of_isBlank (ha z hz)⟩
  · obtain ⟨rfl, hdash⟩ := h
    exact ⟨by simp, fun z hz => hdash z hz ▸ Text.separates_dash⟩

/-- **A place is one still in lower case**, whatever the three parts are lowered beside.  What a
    comparison asks for beside the text is a blank, a dash or nothing, and none of these is changed;
    nor does a letter become one of them. -/
theorem Fits.lower (h : op.Fits before w after) (b₁ a₁ b₂ a₂ b₃ a₃ : List Char) :
    op.Fits (lowerBetween b₁ before a₁) (lowerBetween b₂ w a₂) (lowerBetween b₃ after a₃) := by
  cases op with
  | equals =>
    obtain ⟨rfl, rfl⟩ := h
    exact ⟨rfl, rfl⟩
  | includesWord =>
    obtain ⟨hb, ha⟩ := h.separates (Or.inr (Or.inl rfl))
    obtain ⟨hne, hw, hset⟩ := h
    refine ⟨Text.lowerBetween_ne_nil hne, Text.isBlank_lowerBetween hw, ?_⟩
    rw [Ascii.SetOff, Text.getLast?_lowerBetween hb, Text.head?_lowerBetween ha]
    exact hset
  | equalsOrDash =>
    obtain ⟨-, ha⟩ := h.separates (Or.inr (Or.inr rfl))
    obtain ⟨rfl, hdash⟩ := h
    refine ⟨rfl, ?_⟩
    rw [Text.head?_lowerBetween ha]
    exact hdash
  | startsWith =>
    obtain rfl := h
    rfl
  | endsWith =>
    obtain rfl := h
    rfl
  | contains => trivial

/-- **Where the sigmas keep their form, the expected text is found again.**  The value is lowered as
    a whole, which is lowering its three parts beside each other; the part in the middle is the
    expected text lowered alone. -/
theorem holds_lowerCase_of_sigmasKept (hv : value.toList = before ++ (expected.toList ++ after))
    (hfits : op.Fits before expected.toList after)
    (hkept : SigmasKept before expected.toList after) :
    op.holds (lowerCase expected) (lowerCase value) = true := by
  have hpart : lowerBetween before.reverse expected.toList after =
      lowerBetween [] expected.toList [] := Text.lowerBetween_eq_iff.2 hkept
  refine holds_iff.2 ⟨lowerBetween [] before (expected.toList ++ after),
    lowerBetween (expected.toList.reverse ++ before.reverse) after [], ?_, ?_⟩
  · rw [Text.toList_lowerCase, Text.toList_lowerCase, hv, Text.lowerBetween_append,
      Text.lowerBetween_append, List.append_nil, List.append_nil, List.append_nil, hpart]
  · rw [Text.toList_lowerCase]
    exact hfits.lower _ _ _ _ _ _

/-- A whole value, a word and a part before a dash are lowered as alone: beside them stands nothing,
    a blank or a dash, and none of these makes a sigma anything but what it is alone. -/
theorem Fits.sigmasKept (hop : op = .equals ∨ op = .includesWord ∨ op = .equalsOrDash)
    (h : op.Fits before w after) : SigmasKept before w after := by
  obtain ⟨hb, ha⟩ := h.separates hop
  refine Text.sigmasKept_of_casedComesFirst (Text.casedComesFirst_of_separates ?_)
    (Text.casedComesFirst_of_separates ha)
  rwa [List.head?_reverse]

/-- At the front of a value, the expected text is found again only if its sigmas keep their form.
    The lowered text has the same length, so at the front it can only be the lowered part. -/
theorem sigmasKept_of_startsWith (hv : value.toList = expected.toList ++ after)
    (h : startsWith.holds (lowerCase expected) (lowerCase value) = true) :
    SigmasKept [] expected.toList after := by
  obtain ⟨_, rest, heq, rfl⟩ := holds_iff.1 h
  rw [Text.toList_lowerCase, Text.toList_lowerCase, hv, Text.lowerBetween_append, List.append_nil,
    List.nil_append] at heq
  exact Text.lowerBetween_eq_iff.1 (List.append_inj heq (Text.length_lowerBetween _ _ _ _ _)).1

/-- At the end of a value, the expected text is found again only if its sigmas keep their form. -/
theorem sigmasKept_of_endsWith (hv : value.toList = before ++ expected.toList)
    (h : endsWith.holds (lowerCase expected) (lowerCase value) = true) :
    SigmasKept before expected.toList [] := by
  obtain ⟨rest, _, heq, rfl⟩ := holds_iff.1 h
  rw [Text.toList_lowerCase, Text.toList_lowerCase, hv, Text.lowerBetween_append, List.append_nil,
    List.append_nil, List.append_nil] at heq
  exact Text.lowerBetween_eq_iff.1 (List.append_inj' heq (Text.length_lowerBetween _ _ _ _ _)).2

end Comparison

/-! ## Attribute tests

  A test fails for an empty text where its operator needs one; this is decided before case is looked
  at. -/

namespace AttributeTest

variable {name : String} {op : Comparison} {expected value : String}

/-- What passes with case needs no second look at whether the expected text may be empty. -/
theorem accepts_ignoringCase_iff
    (h : (⟨name, some (op, expected), false⟩ : AttributeTest).accepts (some value) = true) :
    (⟨name, some (op, expected), true⟩ : AttributeTest).accepts (some value) = true ↔
      op.holds (lowerCase expected) (lowerCase value) = true := by
  have htext : (!(op.needsText && expected.isEmpty)) = true := (Bool.and_eq_true_iff.1 h).1
  show (!(op.needsText && expected.isEmpty) &&
    op.holds (lowerCase expected) (lowerCase value)) = true ↔ _
  rw [htext, Bool.true_and]

/-- **Attribute tests with case and without.**  An attribute that passes a test passes it, too, when
    case is ignored: always if its whole value, one of its words or its part before a dash is
    compared, or if the expected text has no capital sigma.  In a value that starts or ends with the
    expected text, it does exactly when each capital sigma of the text is lowered within the value
    to the form that it has in the text alone.  In a value that contains the text, it does when this
    is so at one place of the text. -/
theorem accepts_ignoringCase
    (h : (⟨name, some (op, expected), false⟩ : AttributeTest).accepts (some value) = true) :
    (op = .equals ∨ op = .includesWord ∨ op = .equalsOrDash ∨ 'Σ' ∉ expected.toList →
      (⟨name, some (op, expected), true⟩ : AttributeTest).accepts (some value) = true) ∧
    (op = .startsWith → ∀ after, value.toList = expected.toList ++ after →
      ((⟨name, some (op, expected), true⟩ : AttributeTest).accepts (some value) = true ↔
        SigmasKept [] expected.toList after)) ∧
    (op = .endsWith → ∀ before, value.toList = before ++ expected.toList →
      ((⟨name, some (op, expected), true⟩ : AttributeTest).accepts (some value) = true ↔
        SigmasKept before expected.toList [])) ∧
    (op = .contains → ∀ before after, value.toList = before ++ (expected.toList ++ after) →
      SigmasKept before expected.toList after →
        (⟨name, some (op, expected), true⟩ : AttributeTest).accepts (some value) = true) := by
  rw [accepts_ignoringCase_iff h]
  have hholds : op.holds expected value = true := (Bool.and_eq_true_iff.1 h).2
  refine ⟨fun hop => ?_, ?_, ?_, ?_⟩
  · obtain ⟨before, after, hv, hfits⟩ := Comparison.holds_iff.1 hholds
    refine Comparison.holds_lowerCase_of_sigmasKept hv hfits ?_
    rcases hop with hop | hop | hop | hsigma
    · exact hfits.sigmasKept (Or.inl hop)
    · exact hfits.sigmasKept (Or.inr (Or.inl hop))
    · exact hfits.sigmasKept (Or.inr (Or.inr hop))
    · exact Text.sigmasKept_of_not_mem hsigma
  · rintro rfl after hv
    constructor
    · exact Comparison.sigmasKept_of_startsWith hv
    · have hfits : Comparison.startsWith.Fits [] expected.toList after := rfl
      exact Comparison.holds_lowerCase_of_sigmasKept hv hfits
  · rintro rfl before hv
    constructor
    · exact Comparison.sigmasKept_of_endsWith hv
    · have hfits : Comparison.endsWith.Fits before expected.toList [] := rfl
      exact Comparison.holds_lowerCase_of_sigmasKept (by rw [hv, List.append_nil]) hfits
  · rintro rfl before after hv
    exact Comparison.holds_lowerCase_of_sigmasKept hv trivial

/-- A sigma that ends the expected text keeps its form ahead of a dash, and does not ahead of a
    letter. -/
theorem accepts_ignoringCase_sigma :
    (⟨"title", some (.startsWith, "ΑΣ"), false⟩ : AttributeTest).accepts (some "ΑΣ-Β") = true ∧
    (⟨"title", some (.startsWith, "ΑΣ"), true⟩ : AttributeTest).accepts (some "ΑΣ-Β") = true ∧
    (⟨"title", some (.startsWith, "ΑΣ"), false⟩ : AttributeTest).accepts (some "ΑΣΒ") = true ∧
    ¬ SigmasKept [] "ΑΣ".toList "Β".toList := by
  have hdash : (⟨"title", some (.startsWith, "ΑΣ"), false⟩ : AttributeTest).accepts
      (some "ΑΣ-Β") = true := by decide +kernel
  have hletter : (⟨"title", some (.startsWith, "ΑΣ"), false⟩ : AttributeTest).accepts
      (some "ΑΣΒ") = true := by decide +kernel
  have hkept : SigmasKept [] "ΑΣ".toList "-Β".toList :=
    Text.sigmasKept_of_casedComesFirst rfl (by decide +kernel)
  obtain ⟨-, hfront, -, -⟩ := accepts_ignoringCase hdash
  obtain ⟨-, hfront', -, -⟩ := accepts_ignoringCase hletter
  refine ⟨hdash, (hfront rfl "-Β".toList (by decide)).2 hkept, hletter, fun h => ?_⟩
  have haccepts : (⟨"title", some (.startsWith, "ΑΣ"), true⟩ : AttributeTest).accepts
      (some "ΑΣΒ") = true := (hfront' rfl "Β".toList (by decide)).2 h
  revert haccepts
  decide +kernel

/-- Ignoring case can lose an attribute: `ας` does not start `ασβ`. -/
theorem not_forall_accepts_ignoringCase :
    ¬ ∀ (name : String) (op : Comparison) (expected value : String),
      (⟨name, some (op, expected), false⟩ : AttributeTest).accepts (some value) = true →
        (⟨name, some (op, expected), true⟩ : AttributeTest).accepts (some value) = true := by
  intro h
  have haccepts := h "title" .startsWith "ΑΣ" "ΑΣΒ" (by decide +kernel)
  revert haccepts
  decide +kernel

end AttributeTest

end Pinpoint
