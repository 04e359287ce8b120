/-
  Expressions `An+B`: which texts are one, and which positions it picks.

  1. **An expression picks the positions `A·k + B`** with a whole `k` from zero on, whatever its two
     numbers are (`picks_iff`): a positive `A` goes up from `B`, a negative one down, and without `A`
     there is `B` alone.
  2. The grammar, apart from any reader: runs of decimal digits, a sign before them, the part before
     the letter, the part behind it, and the two words.
  3. **Each reader accepts its part of the grammar**, with the value that the grammar gives, and
     nothing else.  Digits are read from the left and the grammar adds them on the right, so the
     induction is on the last digit.
  4. So the texts that are read are those of the grammar, and every expression is among the answers
     (`ofString?_reads_spellings`).
-/
import Mathlib.Data.List.Induction
import Pinpoint.Proofs.Selector.RoundTrip

namespace Pinpoint

/-- A list is what stands before the first place of a member, the member, and the rest. -/
theorem eq_append_of_mem {α : Type} [DecidableEq α] {l : List α} {a : α} (h : a ∈ l) :
    l = l.takeWhile (· ≠ a) ++ a :: (l.dropWhile (· ≠ a)).tail := by
  induction l with
  | nil => cases h
  | cons b l ih =>
    by_cases hb : b = a
    · subst hb
      simp
    · have hmem : a ∈ l := by
        rcases List.mem_cons.1 h with rfl | hmem
        · exact absurd rfl hb
        · exact hmem
      simpa [hb] using ih hmem

namespace Nth

/-! ## Positions

  What an expression means, by the numbers it has. -/

/-- The multiples of a number, from its zeroth on: they have its sign, or are zero.  The matcher
    divides and looks at the remainder and the sign, and this is the condition it tests. -/
theorem exists_mul_eq_iff {a d : Int} :
    (∃ k : Nat, a * k = d) ↔
      if a = 0 then d = 0 else if 0 < a then 0 ≤ d ∧ d % a = 0 else d ≤ 0 ∧ d % a = 0 := by
  split
  · rename_i ha
    subst ha
    constructor
    · rintro ⟨k, rfl⟩
      exact Int.zero_mul _
    · rintro rfl
      exact ⟨0, Int.zero_mul _⟩
  · split
    · rename_i hpos
      constructor
      · rintro ⟨k, rfl⟩
        exact ⟨Int.mul_nonneg (by omega) (by omega), Int.mul_emod_right a k⟩
      · rintro ⟨hd, hmod⟩
        obtain ⟨c, rfl⟩ := Int.dvd_of_emod_eq_zero hmod
        have hc : 0 ≤ c := Int.nonneg_of_mul_nonneg_right hd hpos
        exact ⟨c.toNat, by rw [Int.toNat_of_nonneg hc]⟩
    · rename_i hne hpos
      constructor
      · rintro ⟨k, rfl⟩
        exact ⟨Int.mul_nonpos_of_nonpos_of_nonneg (by omega) (by omega), Int.mul_emod_right a k⟩
      · rintro ⟨hd, hmod⟩
        obtain ⟨c, rfl⟩ := Int.dvd_of_emod_eq_zero hmod
        -- a negative quotient would make the product positive
        have hc : 0 ≤ c := by
          rcases Int.lt_or_le c 0 with hneg | hc
          · have := Int.mul_pos_of_neg_of_neg (show a < 0 by omega) hneg
            omega
          · exact hc
        exact ⟨c.toNat, by rw [Int.toNat_of_nonneg hc]⟩

/-- **An expression picks the positions `A·k + B` with `k ≥ 0`**, and no other.  The sums are those
    of the whole numbers: nothing overflows, whatever the two numbers are. -/
theorem picks_iff (e : Nth) (n : Int32) :
    e.picks n = true ↔ ∃ k : Nat, e.a.toInt * k + e.b.toInt = n.toInt := by
  have hmove : (∃ k : Nat, e.a.toInt * k + e.b.toInt = n.toInt) ↔
      ∃ k : Nat, e.a.toInt * k = n.toInt - e.b.toInt := by
    constructor
    · rintro ⟨k, hk⟩
      exact ⟨k, by omega⟩
    · rintro ⟨k, hk⟩
      exact ⟨k, by omega⟩
  rw [hmove, exists_mul_eq_iff]
  unfold picks
  dsimp only
  split
  · rw [decide_eq_true_iff]
  · split
    · rw [Bool.and_eq_true, decide_eq_true_iff, decide_eq_true_iff]
    · rw [Bool.and_eq_true, decide_eq_true_iff, decide_eq_true_iff]

end Nth

/-! ## The grammar

  Said by inductive predicates, each with the value that a text has.  A text has one value at most
  in each, since the readers below are functions. -/

/-- A run of decimal digits, at least one, and its value. -/
inductive Decimal : List Char → Nat → Prop
  | digit {d : Nat} (hd : d < 10) : Decimal [Nat.digitChar d] d
  | more {ds : List Char} {n d : Nat} (h : Decimal ds n) (hd : d < 10) :
      Decimal (ds ++ [Nat.digitChar d]) (10 * n + d)

/-- A run of digits, with or without a sign before it. -/
inductive Signed : List Char → Int → Prop
  | plain {ds : List Char} {n : Nat} (h : Decimal ds n) : Signed ds n
  | plus {ds : List Char} {n : Nat} (h : Decimal ds n) : Signed ('+' :: ds) n
  | minus {ds : List Char} {n : Nat} (h : Decimal ds n) : Signed ('-' :: ds) (-n)

/-- What may stand before the letter: nothing or a bare sign, or a number of 32 bits. -/
inductive Coefficient : List Char → Int32 → Prop
  | nothing : Coefficient [] 1
  | plus : Coefficient ['+'] 1
  | minus : Coefficient ['-'] (-1)
  | number {cs : List Char} {a : Int32} (h : Signed cs a.toInt) : Coefficient cs a

/-- What may stand behind the letter: nothing, or a number of 32 bits that has its sign. -/
inductive Offset : List Char → Int32 → Prop
  | nothing : Offset [] 0
  | plus {ds : List Char} {b : Int32} {n : Nat} (h : Decimal ds n) (hb : b.toInt = n) :
      Offset ('+' :: ds) b
  | minus {ds : List Char} {b : Int32} {n : Nat} (h : Decimal ds n) (hb : b.toInt = -n) :
      Offset ('-' :: ds) b

/-- The texts of an expression, without blanks and in lower case. -/
inductive Nth.Spelling : List Char → Nth → Prop
  | odd : Spelling ['o', 'd', 'd'] ⟨2, 1⟩
  | even : Spelling ['e', 'v', 'e', 'n'] ⟨2, 0⟩
  | index {cs : List Char} {b : Int32} (h : Signed cs b.toInt) : Spelling cs ⟨0, b⟩
  | linear {front back : List Char} {a b : Int32} (ha : Coefficient front a) (hb : Offset back b) :
      Spelling (front ++ 'n' :: back) ⟨a, b⟩

/-! ## Digits

  From characters to numbers and back. -/

/-- A digit is the sign of the number that it stands for. -/
theorem Ascii.eq_digitChar {c : Char} (h : c.isDigit = true) :
    c = Nat.digitChar (c.toNat - '0'.toNat) ∧ c.toNat - '0'.toNat < 10 := by
  have hall : ∀ c ∈ Ascii.digits,
      c = Nat.digitChar (c.toNat - '0'.toNat) ∧ c.toNat - '0'.toNat < 10 :=
    List.all_iff_forall_prop.1 (by decide)
  exact hall c (Ascii.mem_digits h)

/-- The sign of a number below ten is a digit, and stands for this number. -/
theorem Ascii.isDigit_digitChar {d : Nat} (hd : d < 10) :
    (Nat.digitChar d).isDigit = true ∧ (Nat.digitChar d).toNat - '0'.toNat = d := by
  have hall : ∀ d < 10, (Nat.digitChar d).isDigit = true ∧ (Nat.digitChar d).toNat - '0'.toNat = d :=
    by decide
  exact hall d hd

/-- A run of digits is not empty. -/
theorem Decimal.ne_nil {ds : List Char} {n : Nat} (h : Decimal ds n) : ds ≠ [] := by
  cases h with
  | digit hd => exact List.cons_ne_nil _ _
  | more h hd => exact List.concat_ne_nil _ _

/-- It is made of digits. -/
theorem Decimal.isDigit {ds : List Char} {n : Nat} (h : Decimal ds n) :
    ∀ c ∈ ds, c.isDigit = true := by
  induction h with
  | digit hd =>
    intro c hc
    rw [List.mem_singleton.1 hc]
    exact (Ascii.isDigit_digitChar hd).1
  | more _ hd ih =>
    intro c hc
    rcases List.mem_append.1 hc with hc | hc
    · exact ih c hc
    · rw [List.mem_singleton.1 hc]
      exact (Ascii.isDigit_digitChar hd).1

/-- A sign is no digit. -/
theorem Decimal.head_ne {ds rest : List Char} {n : Nat} {c : Char} (h : Decimal ds n)
    (hc : c.isDigit = false) : ds ≠ c :: rest := by
  rintro rfl
  have := h.isDigit c List.mem_cons_self
  rw [hc] at this
  cases this

namespace Nth

/-- One digit is read as what it stands for. -/
theorem digits?_singleton {c : Char} (hc : c.isDigit = true) :
    digits? [c] = some (c.toNat - '0'.toNat) := by
  simp [digits?, hc]

/-- One more digit at the end moves the others one place up. -/
theorem digits?_concat {ds : List Char} (hne : ds ≠ []) {c : Char} (hc : c.isDigit = true) :
    digits? (ds ++ [c]) = (digits? ds).map fun n => 10 * n + (c.toNat - '0'.toNat) := by
  unfold digits?
  by_cases hall : ds.all Char.isDigit = true
  · simp [hne, hall, hc]
  · simp [hall]

/-- Only digits are read, and one at least. -/
theorem isDigit_of_digits? {ds : List Char} {n : Nat} (h : digits? ds = some n) :
    ds ≠ [] ∧ ∀ c ∈ ds, c.isDigit = true := by
  unfold digits? at h
  split at h
  · cases h
  · rename_i hno
    simpa using hno

/-- **Digits are read with their value.**  By induction from the last digit, on either side. -/
theorem digits?_eq_some_iff {ds : List Char} {n : Nat} : digits? ds = some n ↔ Decimal ds n := by
  constructor
  · intro h
    induction ds using List.reverseRecOn generalizing n with
    | nil => cases h
    | append_singleton ds c ih =>
      -- the last digit counts once, and what is before it ten times
      have hc : c.isDigit = true := (isDigit_of_digits? h).2 c (by simp)
      obtain ⟨hchar, hlt⟩ := Ascii.eq_digitChar hc
      by_cases hne : ds = []
      · subst hne
        rw [List.nil_append, digits?_singleton hc, Option.some_inj] at h
        subst h
        rw [List.nil_append, hchar]
        have := (Ascii.isDigit_digitChar hlt).2
        rw [this]
        exact .digit hlt
      · rw [digits?_concat hne hc, Option.map_eq_some_iff] at h
        obtain ⟨m, hm, rfl⟩ := h
        have hmore := Decimal.more (ih hm) hlt
        rwa [← hchar] at hmore
  · intro h
    induction h with
    | digit hd =>
      obtain ⟨hdigit, hvalue⟩ := Ascii.isDigit_digitChar hd
      rw [digits?_singleton hdigit, hvalue]
    | more h hd ih =>
      obtain ⟨hdigit, hvalue⟩ := Ascii.isDigit_digitChar hd
      rw [digits?_concat h.ne_nil hdigit, ih, Option.map_some, hvalue]

/-! ## Numbers

  A number has 32 bits.  One that does not fit is refused, and with it the whole expression. -/

/-- A number of 32 bits is known by its value. -/
theorem word?_eq_some_iff {n : Int} {v : Int32} : word? n = some v ↔ v.toInt = n := by
  constructor
  · intro h
    unfold word? at h
    split at h
    · rename_i hfits
      rw [Option.some_inj] at h
      subst h
      have hmin : Int32.minValue.toInt = -2 ^ 31 := by decide
      have hmax : Int32.maxValue.toInt = 2 ^ 31 - 1 := by decide
      exact Int32.toInt_ofInt_of_le (by omega) (by omega)
    · cases h
  · rintro rfl
    exact word?_toInt v

/-- Digits with a sign are read with the signed value, if it fits. -/
theorem bind_word?_eq_some_iff {ds : List Char} {sign : Nat → Int} {v : Int32} :
    ((digits? ds).bind fun n => word? (sign n)) = some v ↔
      ∃ n, Decimal ds n ∧ v.toInt = sign n := by
  rw [Option.bind_eq_some_iff]
  simp only [digits?_eq_some_iff, word?_eq_some_iff]

/-- **A number is read with its value, if the value fits.**  The sign is read with the digits, so
    the smallest number is read although its digits alone would not fit. -/
theorem number?_eq_some_iff {cs : List Char} {v : Int32} :
    number? cs = some v ↔ Signed cs v.toInt := by
  constructor
  · intro h
    unfold number? at h
    split at h
    · obtain ⟨n, hn, hv⟩ := bind_word?_eq_some_iff.1 h
      rw [hv]
      exact .plus hn
    · obtain ⟨n, hn, hv⟩ := bind_word?_eq_some_iff.1 h
      rw [hv]
      exact .minus hn
    · obtain ⟨n, hn, hv⟩ := bind_word?_eq_some_iff.1 h
      rw [hv]
      exact .plain hn
  · intro h
    -- the grammar speaks of integers, so the number is kept apart from its value
    generalize hvalue : v.toInt = value at h
    cases h with
    | plain h =>
      unfold number?
      split
      · exact absurd rfl (h.head_ne (c := '+') (by decide))
      · exact absurd rfl (h.head_ne (c := '-') (by decide))
      · exact bind_word?_eq_some_iff.2 ⟨_, h, hvalue⟩
    | plus h => exact bind_word?_eq_some_iff.2 ⟨_, h, hvalue⟩
    | minus h => exact bind_word?_eq_some_iff.2 ⟨_, h, hvalue⟩

/-! ## The two sides of the letter

  The coefficient may be left out or be a bare sign.  The offset may be left out, but not its
  sign. -/

/-- **The reader of the part before the letter accepts its part of the grammar.** -/
theorem coefficient?_eq_some_iff {cs : List Char} {a : Int32} :
    coefficient? cs = some a ↔ Coefficient cs a := by
  constructor
  · intro h
    unfold coefficient? at h
    split at h
    · rename_i hone
      rw [Option.some_inj] at h
      subst h
      rw [Bool.or_eq_true, decide_eq_true_iff, decide_eq_true_iff] at hone
      rcases hone with rfl | rfl
      · exact .nothing
      · exact .plus
    · split at h
      · rename_i hminus
        rw [Option.some_inj] at h
        subst h
        subst hminus
        exact .minus
      · exact .number (number?_eq_some_iff.1 h)
  · intro h
    cases h with
    | nothing => rfl
    | plus => rfl
    | minus => rfl
    | number h => exact coefficient?_of_number (number?_eq_some_iff.2 h)

/-- **So does the reader of the part behind it.**  A number without a sign is refused there. -/
theorem offset?_eq_some_iff {cs : List Char} {b : Int32} :
    offset? cs = some b ↔ Offset cs b := by
  constructor
  · intro h
    cases cs with
    | nil =>
      cases h
      exact .nothing
    | cons c ds =>
      rw [offset?] at h
      split at h
      · rename_i hsign
        rw [Bool.or_eq_true, decide_eq_true_iff, decide_eq_true_iff] at hsign
        rcases hsign with rfl | rfl
        · obtain ⟨n, hn, hv⟩ := bind_word?_eq_some_iff.1 h
          exact .plus hn hv
        · obtain ⟨n, hn, hv⟩ := bind_word?_eq_some_iff.1 h
          exact .minus hn hv
      · cases h
  · intro h
    cases h with
    | nothing => rfl
    | plus h hb =>
      rw [offset?, if_pos (by decide)]
      exact number?_eq_some_iff.2 (hb ▸ .plus h)
    | minus h hb =>
      rw [offset?, if_pos (by decide)]
      exact number?_eq_some_iff.2 (hb ▸ .minus h)

/-- Before the letter stands no other one.  So the text is cut where the spelling has its letter. -/
theorem not_mem_of_coefficient? {cs : List Char} {a : Int32} (h : coefficient? cs = some a) :
    'n' ∉ cs := by
  intro hmem
  have hnumber := number?_eq_none hmem
  cases coefficient?_eq_some_iff.1 h with
  | nothing => cases hmem
  | plus => exact absurd hmem (by decide)
  | minus => exact absurd hmem (by decide)
  | number h =>
    rw [number?_eq_some_iff.2 h] at hnumber
    cases hnumber

/-! ## Expressions

  A text is made lower case and freed of its blanks before it is read, wherever they stand. -/

/-- A text is cut at its first letter: what stands before it, the letter, and the rest. -/
theorem eq_append_of_dropWhile {cs back : List Char} {c : Char}
    (h : cs.dropWhile (· ≠ 'n') = c :: back) : cs = cs.takeWhile (· ≠ 'n') ++ 'n' :: back := by
  have hmem : 'n' ∈ cs := by
    apply Decidable.byContradiction
    intro hno
    have hnone : cs.dropWhile (· ≠ 'n') = [] := by
      rw [List.dropWhile_eq_nil_iff]
      intro d hd
      exact decide_eq_true fun heq => hno (heq ▸ hd)
    rw [hnone] at h
    cases h
  have hsplit := eq_append_of_mem hmem
  rw [h] at hsplit
  exact hsplit

/-- **So does the reader of a whole expression**, on texts without blanks and in lower case.  The
    two words come first, then a number alone, and then the form with a letter. -/
theorem ofNormalized?_eq_some_iff {cs : List Char} {e : Nth} :
    ofNormalized? cs = some e ↔ Spelling cs e := by
  constructor
  · intro h
    unfold ofNormalized? at h
    split at h
    · rename_i hodd
      cases h
      subst hodd
      exact .odd
    · split at h
      · rename_i heven
        cases h
        subst heven
        exact .even
      · split at h
        · rename_i hb
          cases h
          exact .index (number?_eq_some_iff.1 hb)
        · split at h
          · cases h
          · rename_i hdrop
            obtain ⟨a, ha, h⟩ := Option.bind_eq_some_iff.1 h
            obtain ⟨b, hb, h⟩ := Option.bind_eq_some_iff.1 h
            cases h
            -- the letter is the first one there is, so what is before it has none
            rw [eq_append_of_dropWhile hdrop]
            exact .linear (coefficient?_eq_some_iff.1 ha) (offset?_eq_some_iff.1 hb)
  · intro h
    cases h with
    | odd => rfl
    | even => rfl
    | index h => exact ofNormalized?_of_number (number?_eq_some_iff.2 h)
    | linear ha hb =>
      have ha := coefficient?_eq_some_iff.2 ha
      exact ofNormalized?_of_letter (not_mem_of_coefficient? ha) ha (offset?_eq_some_iff.2 hb)

/-- What counts of a text: blanks are left out, and letters are in lower case. -/
def normalized (s : String) : List Char :=
  (s.toList.filter (fun c => !Ascii.isBlank c)).map Char.toLower

/-- **Reading accepts exactly the spellings of expressions.**  Without its blanks and in lower case,
    a text that is read spells the expression that it is read as; any other text is refused.  Every
    pair of numbers of 32 bits is reached. -/
theorem ofString?_reads_spellings :
    (∀ s e, ofString? s = some e ↔ Spelling (normalized s) e) ∧
    (∀ s, ofString? s = none ↔ ∀ e, ¬ Spelling (normalized s) e) ∧
    ∀ a b : Int32, ∃ s, ofString? s = some ⟨a, b⟩ := by
  have hread : ∀ s e, ofString? s = some e ↔ Spelling (normalized s) e :=
    fun s e => ofNormalized?_eq_some_iff
  refine ⟨hread, fun s => ?_, fun a b => ⟨_, ofString?_written ⟨a, b⟩⟩⟩
  rw [Option.eq_none_iff_forall_ne_some]
  exact forall_congr' fun e => not_congr (hread s e)

end Nth

end Pinpoint
