/-
  ASCII text: the blanks that separate words in markup and in selectors, the two cases of a
  letter, and the cutting of a text at separators.

  1. Blanks and letters: `isBlank`, `lower`, `sameLetters`.
  2. Cutting: `pieces` keeps every piece, `words` drops the empty ones.
-/
namespace Pinpoint.Ascii

/-! ## Blanks and letters -/

/-- The five ASCII blanks: space, tab, line feed, form feed, carriage return. -/
def isBlank (c : Char) : Bool :=
  c = ' ' || c = '\t' || c = '\n' || c = '\x0c' || c = '\r'

/-- Code points below 128. -/
def isAscii (c : Char) : Bool := c.toNat < 128

/-- Lower case for the ASCII letters, everything else unchanged. -/
def lower (s : String) : String := String.ofList (s.toList.map Char.toLower)

/-- Upper case for the ASCII letters, everything else unchanged. -/
def upper (s : String) : String := String.ofList (s.toList.map Char.toUpper)

/-- Equal up to the case of ASCII letters. -/
def sameLetters (a b : String) : Bool := lower a == lower b

@[simp] theorem toList_lower (s : String) : (lower s).toList = s.toList.map Char.toLower := by
  simp [lower]

theorem isUpper_toLower (c : Char) : c.toLower.isUpper = false := by
  unfold Char.isUpper Char.toLower
  split
  · -- a letter moved up by 32 is past the last capital
    rename_i h
    simp only [ge_iff_le, UInt32.le_iff_toNat_le] at h
    simp [UInt32.le_iff_toNat_le] at h ⊢
    omega
  · rename_i h
    simpa using h

theorem isLower_toLower {c : Char} (h : c.isUpper = true) : c.toLower.isLower = true := by
  unfold Char.isUpper at h
  rw [decide_eq_true_eq] at h
  unfold Char.isLower Char.toLower
  rw [dif_pos h]
  simp only [ge_iff_le, UInt32.le_iff_toNat_le] at h
  simp [UInt32.le_iff_toNat_le] at h ⊢
  omega

theorem toLower_of_not_isUpper {c : Char} (h : c.isUpper = false) : c.toLower = c := by
  unfold Char.isUpper at h
  unfold Char.toLower
  rw [dif_neg]
  simpa using h

theorem lower_of_not_isUpper {s : String} (h : ∀ c ∈ s.toList, c.isUpper = false) :
    lower s = s := by
  rw [lower, List.map_congr_left fun c hc => toLower_of_not_isUpper (h c hc), List.map_id',
    String.ofList_toList]

theorem not_isUpper_lower {s : String} : ∀ c ∈ (lower s).toList, c.isUpper = false := by
  rw [toList_lower]
  intro c hc
  obtain ⟨d, -, rfl⟩ := List.mem_map.1 hc
  exact isUpper_toLower d

theorem lower_lower (s : String) : lower (lower s) = lower s :=
  lower_of_not_isUpper not_isUpper_lower

/-! ## Cutting -/

/-- Cut at every separator; a text with `n` separators has `n + 1` pieces, some of them empty. -/
def pieces (isSep : Char → Bool) : List Char → List (List Char)
  | [] => [[]]
  | c :: cs =>
    if isSep c then [] :: pieces isSep cs
    else
      match pieces isSep cs with
      | [] => [[c]]
      | w :: ws => (c :: w) :: ws

/-- The words of a text: its non-empty pieces between ASCII blanks. -/
def words (s : String) : List String :=
  ((pieces isBlank s.toList).filter (fun w => !w.isEmpty)).map String.ofList

example : words " a  b\tc\n" = ["a", "b", "c"] := by decide
example : words "" = [] := by decide
example : (pieces (· = ' ') "a  b".toList).map String.ofList = ["a", "", "b"] := by decide
example : sameLetters "DIV" "div" = true ∧ sameLetters "É" "é" = false := by decide

end Pinpoint.Ascii
