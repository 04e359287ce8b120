/-
  Lower case of a part of a text.

  1. Of all letters only the capital sigma looks at what stands around it.  A text is lowered part
     by part, each of them between what comes before it and what follows (`lowerBetween_append`).
  2. Whatever stands around a part, it is lowered to equally many characters.  **They are the ones
     that it is lowered to alone exactly when every sigma in it keeps its form**
     (`lowerBetween_eq_iff`), as where nothing next to the part is a letter with a case
     (`sigmasKept_of_casedComesFirst`).
  3. Blanks and the dash stay what they are, and no other character becomes a blank.
-/
import Pinpoint.Text.Ascii
import Pinpoint.Text.LowerCase

namespace Pinpoint.Text

variable {before before' after after' w : List Char} {c z : Char}

/-! ## Parts

  The lower case of a text is not the row of the lower cases of its letters: a capital sigma at the
  end of a word gets another form.  So each letter is lowered between what has been passed and what
  is still to come. -/

/-- Lower case of one letter between `before`, nearest first, and `after`. -/
def lowerIn (before : List Char) (c : Char) (after : List Char) : List Char :=
  if c = 'Σ' then [lowerSigma before after] else lowerChar c

/-- Lower case of a part between `before`, nearest first, and `after`.  The letters of the part that
    have been passed are added to what stands before. -/
def lowerBetween (before : List Char) : List Char → (after : List Char) → List Char
  | [], _ => []
  | c :: cs, after => lowerIn before c (cs ++ after) ++ lowerBetween (c :: before) cs after

/-- A text is a part with nothing behind it. -/
theorem lowerCaseAfter_eq (before w : List Char) :
    lowerCaseAfter before w = lowerBetween before w [] := by
  induction w generalizing before with
  | nil => rfl
  | cons c w ih => rw [lowerCaseAfter, lowerBetween, List.append_nil, ih, lowerIn]

/-- A whole text is a part with nothing around it. -/
theorem toList_lowerCase (s : String) : (lowerCase s).toList = lowerBetween [] s.toList [] := by
  rw [lowerCase, String.toList_ofList, lowerCaseAfter_eq]

/-- **A text is lowered part by part**, each where it stands. -/
theorem lowerBetween_append (before u v after : List Char) :
    lowerBetween before (u ++ v) after =
      lowerBetween before u (v ++ after) ++ lowerBetween (u.reverse ++ before) v after := by
  induction u generalizing before with
  | nil => rfl
  | cons c u ih =>
    rw [List.cons_append, lowerBetween, lowerBetween, ih, List.reverse_cons]
    simp only [List.append_assoc, List.cons_append, List.nil_append]

/-! ## The form of a sigma

  How far a part may be lowered on its own.  Prefix and word comparisons of selectors lower both
  sides, and find a part at its place only if it is lowered there as it is alone. -/

/-- How many letters one is lowered to does not depend on its place. -/
theorem length_lowerIn (before after before' after' : List Char) (c : Char) :
    (lowerIn before c after).length = (lowerIn before' c after').length := by
  unfold lowerIn
  split <;> rfl

/-- Only a sigma looks around. -/
theorem lowerIn_eq_iff : lowerIn before c after = lowerIn before' c after' ↔
    (c = 'Σ' → lowerSigma before after = lowerSigma before' after') := by
  unfold lowerIn
  split
  · rename_i h
    simp [h]
  · rename_i h
    simp [h]

/-- A part is lowered to equally many characters wherever it stands. -/
theorem length_lowerBetween (before after before' after' w : List Char) :
    (lowerBetween before w after).length = (lowerBetween before' w after').length := by
  induction w generalizing before before' with
  | nil => rfl
  | cons c w ih =>
    rw [lowerBetween, lowerBetween, List.length_append, List.length_append,
      length_lowerIn before _ before' (w ++ after'), ih (c :: before) (c :: before')]

/-- Does every capital sigma of a part between `before` and `after` have the form that it has when
    the part stands alone?  The sigma sees the letters of the part on both sides of it, and behind
    these what is around the part. -/
def SigmasKept (before w after : List Char) : Prop :=
  ∀ u v, w = u ++ 'Σ' :: v →
    lowerSigma (before ++ u).reverse (v ++ after) = lowerSigma u.reverse v

/-- Two places of a part lower it alike when they lower its sigmas alike.  By induction on the part.
    The two results have the same length letter by letter, so they are equal as a whole only if they
    are for the first letter and for the rest. -/
theorem lowerBetween_congr_iff : lowerBetween before w after = lowerBetween before' w after' ↔
    ∀ u v, w = u ++ 'Σ' :: v →
      lowerSigma (u.reverse ++ before) (v ++ after) =
        lowerSigma (u.reverse ++ before') (v ++ after') := by
  induction w generalizing before before' with
  | nil => simp [lowerBetween]
  | cons c w ih =>
    have hparts : lowerBetween before (c :: w) after = lowerBetween before' (c :: w) after' ↔
        lowerIn before c (w ++ after) = lowerIn before' c (w ++ after') ∧
          lowerBetween (c :: before) w after = lowerBetween (c :: before') w after' := by
      constructor
      · intro h
        exact List.append_inj h (length_lowerIn _ _ _ _ _)
      · rintro ⟨hc, hw⟩
        rw [lowerBetween, lowerBetween, hc, hw]
    rw [hparts, lowerIn_eq_iff, ih]
    constructor
    · rintro ⟨hc, hw⟩ u v heq
      -- the sigma is the first letter, or one of the later ones
      rcases List.cons_eq_append_iff.1 heq with ⟨rfl, hcons⟩ | ⟨u, rfl, rfl⟩
      · cases hcons
        exact hc rfl
      · simpa using hw u v rfl
    · intro h
      refine ⟨?_, fun u v heq => ?_⟩
      · rintro rfl
        exact h [] w rfl
      · simpa using h (c :: u) v (by rw [heq]; rfl)

/-- **A part is lowered as alone exactly when its sigmas keep their form.**  The special case of the
    above in which the second place has nothing around it. -/
theorem lowerBetween_eq_iff :
    lowerBetween before.reverse w after = lowerBetween [] w [] ↔ SigmasKept before w after := by
  simp only [lowerBetween_congr_iff, SigmasKept, List.reverse_append, List.append_nil]

/-- A part without a capital sigma has none that could change its form. -/
theorem sigmasKept_of_not_mem (h : 'Σ' ∉ w) : SigmasKept before w after := by
  rintro u v rfl
  simp at h

/-! ## Edges of a part

  A sigma is final if a letter with a case comes before it and none after it, and letters that are
  ignorable are passed over in both directions.  So a part is on its own where the search for such a
  letter ends at once on either side. -/

/-- Ignorable letters are passed over; the first other one decides. -/
theorem casedComesFirst_cons (c : Char) (cs : List Char) : casedComesFirst (c :: cs) =
    if isCaseIgnorable c then casedComesFirst cs else isCased c := by
  unfold casedComesFirst
  rw [List.dropWhile_cons]
  cases isCaseIgnorable c <;> rfl

/-- What is behind a row of letters does not count if no letter with a case comes first there. -/
theorem casedComesFirst_append (u : List Char) {v : List Char} (h : casedComesFirst v = false) :
    casedComesFirst (u ++ v) = casedComesFirst u := by
  induction u with
  | nil => exact h
  | cons c u ih => rw [List.cons_append, casedComesFirst_cons, casedComesFirst_cons, ih]

/-- Where no letter with a case comes next on either side, a sigma only sees its own part. -/
theorem lowerSigma_append (u : List Char) {before : List Char} (v : List Char) {after : List Char}
    (hb : casedComesFirst before = false) (ha : casedComesFirst after = false) :
    lowerSigma (u ++ before) (v ++ after) = lowerSigma u v := by
  rw [lowerSigma, lowerSigma, casedComesFirst_append u hb, casedComesFirst_append v ha]

/-- **The sigmas of a part keep their form where no letter with a case comes next.** -/
theorem sigmasKept_of_casedComesFirst (hb : casedComesFirst before.reverse = false)
    (ha : casedComesFirst after = false) : SigmasKept before w after := by
  intro u v _
  rw [List.reverse_append]
  exact lowerSigma_append _ _ hb ha

/-! ## Blanks and the dash

  The words of a value are separated by blanks, and its first part may end in a dash.  At both a
  look for letters ends. -/

/-- A character that stays in lower case, and in which every look for a letter ends. -/
structure Separates (z : Char) : Prop where
  lowerChar_eq : lowerChar z = [z]
  ne_sigma : z ≠ 'Σ'
  not_cased : isCased z = false
  not_ignorable : isCaseIgnorable z = false

/-- The dash separates: it has no case, and a look for letters does not pass over it. -/
theorem separates_dash : Separates '-' :=
  ⟨by decide +kernel, by decide, by decide +kernel, by decide +kernel⟩

/-- So do the five blanks. -/
theorem separates_of_isBlank (h : Ascii.isBlank z = true) : Separates z := by
  have hcases : z = ' ' ∨ z = '\t' ∨ z = '\n' ∨ z = '\x0c' ∨ z = '\r' := by
    simpa [Ascii.isBlank, or_assoc] using h
  rcases hcases with rfl | rfl | rfl | rfl | rfl
  all_goals exact ⟨by decide +kernel, by decide, by decide +kernel, by decide +kernel⟩

/-- A separating character stays as it is, wherever it stands. -/
theorem Separates.lowerIn_eq (h : Separates z) : lowerIn before z after = [z] := by
  rw [lowerIn, if_neg h.ne_sigma, h.lowerChar_eq]

/-- No letter with a case comes first where a separating character does, or where nothing does. -/
theorem casedComesFirst_of_separates (h : ∀ z ∈ w.head?, Separates z) :
    casedComesFirst w = false := by
  cases w with
  | nil => rfl
  | cons z w =>
    have hz : Separates z := h z rfl
    rw [casedComesFirst_cons, hz.not_ignorable, if_neg Bool.false_ne_true, hz.not_cased]

/-- A separating character at the front stays at the front. -/
theorem head?_lowerBetween (h : ∀ z ∈ w.head?, Separates z) :
    (lowerBetween before w after).head? = w.head? := by
  cases w with
  | nil => rfl
  | cons z w => rw [lowerBetween, (h z rfl).lowerIn_eq, List.singleton_append, List.head?_cons,
      List.head?_cons]

/-- A separating character at the end stays at the end. -/
theorem getLast?_lowerBetween (h : ∀ z ∈ w.getLast?, Separates z) :
    (lowerBetween before w after).getLast? = w.getLast? := by
  rcases List.eq_nil_or_concat w with rfl | ⟨w, z, rfl⟩
  · rfl
  · have hz : Separates z := h z (by simp)
    rw [List.concat_eq_append, lowerBetween_append, lowerBetween, hz.lowerIn_eq, lowerBetween,
      List.append_nil, List.getLast?_concat, List.getLast?_concat]

/-! ## No new blanks

  Splitting at blanks can be done before or after lowering, because lowering neither removes a blank
  nor makes one. -/

/-- A table of moves leaves a character where it is, or moves it by one of its runs. -/
theorem shifted_eq_or (table : List Shift) (c : Char) : shifted table c = c ∨
    ∃ r ∈ table, r.first ≤ c.toNat ∧ shifted table c = Char.ofNat (c.toNat + r.distance).toNat := by
  unfold shifted
  split
  · rename_i r hr
    have hholds : r.holds c.toNat = true := by simpa using List.find?_some hr
    rw [Shift.holds, Bool.and_eq_true, Bool.and_eq_true, decide_eq_true_eq] at hholds
    exact Or.inr ⟨r, List.mem_of_find?_eq_some hr, hholds.1.1, rfl⟩
  · exact Or.inl rfl

/-- No letter is moved down to a blank.  The runs of the table are looked at one by one. -/
theorem le_lowerShifts : ∀ r ∈ lowerShifts, (33 : Int) ≤ r.first + r.distance := by
  decide +kernel

/-- The blanks are among the first 33 characters. -/
theorem isBlank_of_le (h : 33 ≤ c.toNat) : Ascii.isBlank c = false := by
  have hne : ∀ b : Char, b.toNat < 33 → c ≠ b := by
    rintro b hb rfl
    omega
  simp only [Ascii.isBlank, Bool.or_eq_false_iff, decide_eq_false_iff_not]
  exact ⟨⟨⟨⟨hne ' ' (by decide), hne '\t' (by decide)⟩, hne '\n' (by decide)⟩,
    hne '\x0c' (by decide)⟩, hne '\r' (by decide)⟩

/-- No number from 33 on names a blank. -/
theorem isBlank_ofNat {n : Nat} (h : 33 ≤ n) : Ascii.isBlank (Char.ofNat n) = false := by
  by_cases hn : n.isValidChar
  · have heq : Char.ofNat n = Char.ofNatAux n hn := dif_pos hn
    rw [heq]
    exact isBlank_of_le h
  · -- a number that is no code point gives the character 0
    have heq : Char.ofNat n = '\x00' := dif_neg hn
    rw [heq]
    decide

/-- So the table makes no blank of a letter. -/
theorem isBlank_shifted (h : Ascii.isBlank c = false) :
    Ascii.isBlank (shifted lowerShifts c) = false := by
  rcases shifted_eq_or lowerShifts c with heq | ⟨r, hr, hfirst, heq⟩
  · rwa [heq]
  · have hle := le_lowerShifts r hr
    rw [heq]
    exact isBlank_ofNat (by omega)

/-- No letter is lowered to a blank: not a sigma, not the letter that becomes two, and not a letter
    of the table. -/
theorem isBlank_lowerIn (h : Ascii.isBlank c = false) :
    ∀ z ∈ lowerIn before c after, Ascii.isBlank z = false := by
  intro z hz
  unfold lowerIn lowerChar lowerSigma at hz
  split at hz
  · rw [List.mem_singleton] at hz
    subst hz
    split <;> decide
  · split at hz
    · simp only [List.mem_cons, List.not_mem_nil, or_false] at hz
      rcases hz with rfl | rfl <;> decide
    · rw [List.mem_singleton] at hz
      subst hz
      exact isBlank_shifted h

/-- A part without blanks has none in lower case. -/
theorem isBlank_lowerBetween (h : ∀ c ∈ w, Ascii.isBlank c = false) :
    ∀ z ∈ lowerBetween before w after, Ascii.isBlank z = false := by
  induction w generalizing before with
  | nil => simp [lowerBetween]
  | cons c w ih =>
    intro z hz
    obtain ⟨hc, hw⟩ := List.forall_mem_cons.1 h
    rcases List.mem_append.1 hz with hz | hz
    · exact isBlank_lowerIn hc z hz
    · exact ih hw z hz

/-- A letter is lowered to one letter at least. -/
theorem lowerIn_ne_nil (before : List Char) (c : Char) (after : List Char) :
    lowerIn before c after ≠ [] := by
  unfold lowerIn lowerChar
  split
  · exact List.cons_ne_nil _ _
  · split <;> exact List.cons_ne_nil _ _

/-- A part that is not empty is not lowered to nothing. -/
theorem lowerBetween_ne_nil (h : w ≠ []) : lowerBetween before w after ≠ [] := by
  cases w with
  | nil => exact absurd rfl h
  | cons c w => exact List.append_ne_nil_of_left_ne_nil (lowerIn_ne_nil _ _ _) _

end Pinpoint.Text
