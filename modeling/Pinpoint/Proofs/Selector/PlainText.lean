/-
  Texts that are easy to read: without anything that joins compounds, of name characters only, of
  digits only.

  1. **A text without commas, `>` and blanks is one compound**, if it is a selector at all.
  2. Name characters are read as far as they go; a name that is a tag by itself is read as this
     tag in lower case.
  3. The names of the pseudo-classes are read as they stand, and an argument ends at its bracket.
  4. The digits of a number are read as that number.
-/
import Mathlib.Algebra.Group.Nat.Defs
import Mathlib.Data.Bool.AllAny
import Mathlib.Data.List.TakeWhile
import Pinpoint.Proofs.Selector.Appending

namespace Pinpoint

/-! ## Texts without joints

  Two compounds of an alternative have a link between them, and two alternatives a comma.  A text
  with neither has room for one compound only. -/

namespace Reader

variable {s rest w : List Char}

/-- A character that may stand between two compounds. -/
def isJoint (c : Char) : Bool := c = ',' || c = '>' || Ascii.isBlank c

/-- Without blanks there is nothing to skip. -/
theorem skipBlanks_of_joint (hs : ∀ c ∈ s, isJoint c = false) : skipBlanks s = s := by
  cases s with
  | nil => rfl
  | cons c t =>
    have hb : Ascii.isBlank c = false := by
      have := hs c List.mem_cons_self
      simp only [isJoint, Bool.or_eq_false_iff] at this
      exact this.2
    simp [skipBlanks, hb]

/-- Where nothing joins a compound to the one before, no compound follows. -/
theorem laterParts_of_joint (hs : ∀ c ∈ s, isJoint c = false) {ps : List Part}
    (h : laterParts s = .ok (ps, rest)) : ps = [] ∧ rest = [] := by
  cases s with
  | nil =>
    rw [laterParts_of_none rfl] at h
    cases h
    exact ⟨rfl, rfl⟩
  | cons c t =>
    have hc := hs c List.mem_cons_self
    simp only [isJoint, Bool.or_eq_false_iff, decide_eq_false_iff_not] at hc
    obtain ⟨⟨hcomma, hgt⟩, hb⟩ := hc
    -- something has to follow the compound, and it is no joint
    have hlink : link (c :: t) = .error (.unexpected c t) := by
      rw [link, skipBlanks_of_joint hs]
      simp [hcomma, hgt, hb]
    rw [laterParts.eq_def] at h
    split at h
    · cases h
    · simp_all
    · simp_all

/-- Such a text is read as one compound without a link. -/
theorem complex_of_joint (hs : ∀ c ∈ s, isJoint c = false) {x : Complex}
    (h : complex s = .ok (x, rest)) : rest = [] ∧ ∃ k, x = [⟨none, k⟩] := by
  rw [complex_eq] at h
  obtain ⟨⟨k, r⟩, hk, h⟩ := bind_ok_iff.1 h
  obtain ⟨⟨ps, r'⟩, hps, h⟩ := bind_ok_iff.1 h
  cases h
  have hsuffix : r <:+ s :=
    ((compound_consumes hk).isSuffix).trans (skipBlanks_suffix s)
  obtain ⟨rfl, rfl⟩ := laterParts_of_joint (fun c hc => hs c (hsuffix.subset hc)) hps
  exact ⟨rfl, k, rfl⟩

end Reader

/-- **A selector without joints is one compound.** -/
theorem Selector.parse_of_joint {s : String} (hs : ∀ c ∈ s.toList, Reader.isJoint c = false)
    {x : Selector} (h : Selector.parse s = .ok x) : ∃ k, x = [[⟨none, k⟩]] := by
  unfold Selector.parse at h
  split at h
  · cases h
  · cases ha : Reader.alternatives s.toList with
    | error e => rw [ha] at h; cases h
    | ok y =>
      rw [ha] at h
      cases h
      rw [Reader.alternatives.eq_def] at ha
      split at ha
      · cases ha
      · rename_i x hx
        cases ha
        obtain ⟨-, k, rfl⟩ := Reader.complex_of_joint hs hx
        exact ⟨k, rfl⟩
      · rename_i x c rest hx
        obtain ⟨hrest, -⟩ := Reader.complex_of_joint hs hx
        cases hrest

/-! ## Names

  What is made of name characters is read in one go. -/

namespace Reader

variable {s rest w : List Char}

/-- A name character joins nothing. -/
theorem isJoint_of_isNameChar {c : Char} (h : isNameChar c = true) : isJoint c = false := by
  cases hj : isJoint c with
  | false => rfl
  | true =>
    simp only [isJoint, Ascii.isBlank, Bool.or_eq_true, decide_eq_true_eq] at hj
    rcases hj with (rfl | rfl) | ((((rfl | rfl) | rfl) | rfl) | rfl) <;> exact absurd h (by decide)

/-- Name characters are read up to where reading a name stops. -/
theorem nameChars_of_all (hw : ∀ c ∈ w, isNameChar c = true)
    (hrest : nameChars rest = .ok ([], rest)) : nameChars (w ++ rest) = .ok (w, rest) := by
  induction w with
  | nil => exact hrest
  | cons c w ih =>
    have hc := hw c List.mem_cons_self
    have hne : c ≠ '\\' := by
      rintro rfl
      exact absurd hc (by decide)
    rw [List.cons_append, nameChars_cons hne, if_pos hc,
      ih fun d hd => hw d (List.mem_cons_of_mem _ hd)]
    rfl

/-- A name that does not start like a number is read as an identifier. -/
theorem ident_of_all (hw : ∀ c ∈ w, isNameChar c = true) (hne : w ≠ [])
    (hnum : startsLikeNumber w = false) (hrest : nameChars rest = .ok ([], rest)) :
    ident (w ++ rest) = .ok (String.ofList w, rest) := by
  have hname : name (w ++ rest) = .ok (String.ofList w, rest) := by
    refine bind_ok_iff.2 ⟨_, nameChars_of_all hw hrest, ?_⟩
    simp [hne]; rfl
  refine bind_ok_iff.2 ⟨_, hname, ?_⟩
  simp [hnum]; rfl

/-- No condition starts with a name character. -/
theorem condition?_of_isNameChar {c : Char} (h : isNameChar c = true) (t : List Char) :
    condition? (c :: t) = none := by
  unfold condition?
  split
  · rename_i heq; cases heq; exact absurd h (by decide)
  · rename_i heq; cases heq; exact absurd h (by decide)
  · rename_i heq; cases heq; exact absurd h (by decide)
  · rename_i heq; cases heq; exact absurd h (by decide)
  · rfl

/-- A compound of name characters only is a tag, in lower case.  It starts with one of them, so it
    is no star and no condition; what is not read as a tag either is no compound. -/
theorem compound_of_all (hs : ∀ c ∈ s, isNameChar c = true) {k : Compound}
    (h : compound s = .ok (k, rest)) : k = [.tag (Ascii.lower (String.ofList s))] ∧ rest = [] := by
  obtain ⟨c, t, rfl⟩ := List.exists_cons_of_ne_nil (compound_consumes h).ne_nil
  have hc := hs c List.mem_cons_self
  have hstar : c ≠ '*' := by
    rintro rfl
    exact absurd hc (by decide)
  cases hstart : isIdentStart c with
  | false =>
    rw [compound_error hstar hstart (condition?_of_isNameChar hc t)] at h
    cases h
  | true =>
    obtain ⟨⟨front, r⟩, hlead, h⟩ := bind_ok_iff.1 h
    obtain ⟨⟨cs, r'⟩, hcond, h⟩ := bind_ok_iff.1 h
    simp only [leading, if_neg hstar, hstart, if_true] at hlead
    obtain ⟨⟨v, r₁⟩, hident, hlead⟩ := map_ok_iff.1 hlead
    obtain ⟨⟨v', r₂⟩, hname, hident⟩ := bind_ok_iff.1 hident
    obtain ⟨⟨w, r₃⟩, hw, hname⟩ := bind_ok_iff.1 hname
    -- all of the text is one name, and nothing is left behind it
    have hall : nameChars ((c :: t) ++ []) = .ok (c :: t, []) := nameChars_of_all hs rfl
    rw [List.append_nil, hw] at hall
    cases hall
    dsimp only at hname hident
    rw [if_neg (by simp)] at hname
    cases hname
    split at hident
    · cases hident
    · cases hident
      cases hlead
      rw [conditions_of_none rfl] at hcond
      cases hcond
      cases h
      exact ⟨rfl, rfl⟩

end Reader

/-- A tag of name characters that is a selector is this very tag. -/
theorem Selector.parse_of_names {s : String} (hs : ∀ c ∈ s.toList, Reader.isNameChar c = true)
    {k : Compound} (h : Selector.parse s = .ok [[⟨none, k⟩]]) : k = [.tag (Ascii.lower s)] := by
  have hc := (Selector.parse_eq_singleton_iff.1 h).2
  have hskip := Reader.skipBlanks_of_joint fun c hc => Reader.isJoint_of_isNameChar (hs c hc)
  rw [Reader.complex_eq, hskip] at hc
  obtain ⟨⟨k', r⟩, hk, hc⟩ := Reader.bind_ok_iff.1 hc
  obtain ⟨⟨ps, r'⟩, -, hc⟩ := Reader.bind_ok_iff.1 hc
  cases hc
  obtain ⟨hk, -⟩ := Reader.compound_of_all hs hk
  rw [hk, String.ofList_toList]

/-! ## Pseudo-classes

  There are seven names, and they are looked at one by one where this is all that a fact depends
  on. -/

namespace Reader

variable {s rest w : List Char}

/-- A text is cut at the first place where a character stands. -/
theorem split_at_first {c : Char} {cs : List Char} (hcs : c ∉ cs) (ds : List Char) :
    (cs ++ c :: ds).takeWhile (· ≠ c) = cs ∧ (cs ++ c :: ds).dropWhile (· ≠ c) = c :: ds := by
  have hbefore : ∀ d ∈ cs, decide (d ≠ c) = true := by
    intro d hd
    rw [decide_eq_true_iff]
    rintro rfl
    exact hcs hd
  constructor
  · rw [List.takeWhile_append_of_pos hbefore]
    simp
  · rw [List.dropWhile_append_of_pos hbefore]
    simp

/-- An argument ends at the first closing bracket. -/
theorem argument_closed {arg : List Char} (harg : ')' ∉ arg) (rest : List Char) :
    argument ('(' :: (arg ++ ')' :: rest)) = .ok (some (String.ofList arg), rest) := by
  obtain ⟨htake, hdrop⟩ := split_at_first harg rest
  rw [argument, htake, hdrop, expect, if_pos rfl]
  rfl

/-- The names of the pseudo-classes. -/
def pseudoWords : List String :=
  ["root", "empty", "first-child", "last-child", "only-child", "nth-child", "nth-last-child"]

/-- The name of a pseudo-class is read as it stands, and is in lower case. -/
theorem ident_of_word {word : String} (hword : word ∈ pseudoWords)
    (hs : nameChars s = .ok ([], s)) :
    ident (word.toList ++ s) = .ok (word, s) ∧ Ascii.lower word = word := by
  have hplain : ∀ v ∈ pseudoWords, v.toList.all isNameChar = true ∧ v.toList ≠ [] ∧
      startsLikeNumber v.toList = false ∧ Ascii.lower v = v :=
    List.all_iff_forall_prop.1 (by decide)
  obtain ⟨hnames, hne, hnum, hlower⟩ := hplain word hword
  have hident := ident_of_all (List.all_eq_true.1 hnames) hne hnum hs
  rw [String.ofList_toList] at hident
  exact ⟨hident, hlower⟩

/-- A pseudo-class is read as what its name and its argument stand for. -/
theorem pseudoClass_of_word {word : String} (hword : word ∈ pseudoWords) {arg : Option String}
    {p : PseudoClass} (hs : nameChars s = .ok ([], s)) (harg : argument s = .ok (arg, rest))
    (hp : pseudoClassOf word arg = .ok p) : pseudoClass (word.toList ++ s) = .ok (p, rest) := by
  obtain ⟨hident, hlower⟩ := ident_of_word hword hs
  refine bind_ok_iff.2 ⟨_, hident, bind_ok_iff.2 ⟨_, harg, bind_ok_iff.2 ⟨p, ?_, rfl⟩⟩⟩
  rw [hlower, hp]

end Reader

/-! ## Numbers

  A number is written by the library and read by this program. -/

/-- The decimal digits. -/
def Ascii.digits : List Char := ['0', '1', '2', '3', '4', '5', '6', '7', '8', '9']

/-- The digits are these ten. -/
theorem Ascii.mem_digits {c : Char} (h : c.isDigit = true) : c ∈ Ascii.digits := by
  have hrange : 48 ≤ c.toNat ∧ c.toNat ≤ 57 := by
    simp only [Char.isDigit, Bool.and_eq_true, decide_eq_true_eq, ge_iff_le,
      UInt32.le_iff_toNat_le] at h
    exact h
  have hn : c.toNat = 48 ∨ c.toNat = 49 ∨ c.toNat = 50 ∨ c.toNat = 51 ∨ c.toNat = 52 ∨
      c.toNat = 53 ∨ c.toNat = 54 ∨ c.toNat = 55 ∨ c.toNat = 56 ∨ c.toNat = 57 := by
    omega
  -- a character is known by its number
  rw [← Char.ofNat_toNat c]
  rcases hn with hn | hn | hn | hn | hn | hn | hn | hn | hn | hn <;> rw [hn] <;> decide

/-- A number is written in them. -/
theorem Ascii.mem_digits_of_mem_toDigits {n : Nat} {c : Char} (h : c ∈ Nat.toDigits 10 n) :
    c ∈ Ascii.digits :=
  Ascii.mem_digits (Nat.isDigit_of_mem_toDigits (by decide) (by decide) h)

namespace Nth

/-- The digits of a number are read as the number. -/
theorem digits?_toDigits (n : Nat) : digits? (Nat.toDigits 10 n) = some n := by
  have hall : (Nat.toDigits 10 n).all Char.isDigit = true :=
    List.all_eq_true.2 fun c hc => Nat.isDigit_of_mem_toDigits (by decide) (by decide) hc
  have hvalue : (Nat.toDigits 10 n).foldl (fun n c => 10 * n + (c.toNat - '0'.toNat)) 0 = n := by
    rw [← Nat.ofDigitChars_eq_foldl, Nat.ofDigitChars_ten_toDigits]
  rw [digits?, hall, hvalue]
  simp [Nat.toDigits_ne_nil]

/-- With a plus before them, as well. -/
theorem number?_plus (n : Nat) : number? ('+' :: Nat.toDigits 10 n) = word? n := by
  rw [number?, digits?_toDigits, Option.bind_some]

/-- With a minus before them, as its negative. -/
theorem number?_minus (n : Nat) : number? ('-' :: Nat.toDigits 10 n) = word? (-n) := by
  rw [number?, digits?_toDigits, Option.bind_some]

/-- Digits without a sign before them. -/
theorem number?_digits (n : Nat) : number? (Nat.toDigits 10 n) = word? n := by
  have hsign : ∀ c ∈ Ascii.digits, c ≠ '+' ∧ c ≠ '-' := List.all_iff_forall_prop.1 (by decide)
  have hdigits := digits?_toDigits n
  unfold number?
  split
  · rename_i ds heq
    have hmem : '+' ∈ Nat.toDigits 10 n := by rw [heq]; exact List.mem_cons_self
    exact absurd rfl (hsign _ (Ascii.mem_digits_of_mem_toDigits hmem)).1
  · rename_i ds heq
    have hmem : '-' ∈ Nat.toDigits 10 n := by rw [heq]; exact List.mem_cons_self
    exact absurd rfl (hsign _ (Ascii.mem_digits_of_mem_toDigits hmem)).2
  · rw [hdigits, Option.bind_some]

/-- A number of 32 bits fits into 32 bits. -/
theorem word?_toInt (n : Int32) : word? n.toInt = some n := by
  rw [word?, if_pos ⟨Int32.minValue_le_toInt n, Int32.toInt_le n⟩, Int32.ofInt_toInt]

/-- The decimal digits of a number that fits. -/
theorem number?_toDigits {n : Nat} (hn : n < 2 ^ 31) :
    number? (Nat.toDigits 10 n) = some (Int32.ofNat n) := by
  have hmax : Int32.maxValue.toInt = 2147483647 := by decide
  have hmin : Int32.minValue.toInt = -2147483648 := by decide
  rw [number?_digits, word?, if_pos (by omega)]
  rfl

/-- A number has no letter in it. -/
theorem number?_eq_none {cs : List Char} (h : 'n' ∈ cs) : number? cs = none := by
  have hdigits : ∀ ds : List Char, 'n' ∈ ds → digits? ds = none := by
    intro ds hmem
    have hall : ds.all Char.isDigit = false := List.all_eq_false.2 ⟨'n', hmem, by decide⟩
    rw [digits?, hall]
    simp
  unfold number?
  split
  · rw [hdigits _ (by simpa using h)]; rfl
  · rw [hdigits _ (by simpa using h)]; rfl
  · rw [hdigits _ h]; rfl

/-- The characters of written expressions: digits, signs, and the letter. -/
def characters : List Char := 'n' :: '+' :: '-' :: Ascii.digits

/-- Nothing is dropped from a written expression, and nothing put into lower case. -/
theorem ofString?_of_characters {cs : List Char} (hcs : ∀ c ∈ cs, c ∈ characters) :
    ofString? (String.ofList cs) = ofNormalized? cs := by
  have hplain : ∀ c ∈ characters, Ascii.isBlank c = false ∧ c.toLower = c :=
    List.all_iff_forall_prop.1 (by decide)
  have hfilter : cs.filter (fun c => !Ascii.isBlank c) = cs := by
    rw [List.filter_eq_self]
    intro c hc
    rw [(hplain c (hcs c hc)).1]; rfl
  have hmap : cs.map Char.toLower = cs := by
    rw [List.map_congr_left (g := fun c => c) fun c hc => (hplain c (hcs c hc)).2, List.map_id']
  rw [ofString?, String.toList_ofList, hfilter, hmap]

/-- A number alone is an expression without the letter.  The two words are tried first, and neither
    is a number. -/
theorem ofNormalized?_of_number {cs : List Char} {b : Int32} (hb : number? cs = some b) :
    ofNormalized? cs = some ⟨0, b⟩ := by
  have hodd : cs ≠ ['o', 'd', 'd'] := by
    rintro rfl
    have hnone : number? ['o', 'd', 'd'] = none := by decide
    rw [hnone] at hb
    cases hb
  have heven : cs ≠ ['e', 'v', 'e', 'n'] := by
    rintro rfl
    rw [number?_eq_none (by decide)] at hb
    cases hb
  rw [ofNormalized?, if_neg hodd, if_neg heven, hb]

/-- An expression is split at its first letter.  One of the two words has the letter in it, too, but
    nothing that could stand before it. -/
theorem ofNormalized?_of_letter {cs ds : List Char} {a b : Int32} (hcs : 'n' ∉ cs)
    (ha : coefficient? cs = some a) (hb : offset? ds = some b) :
    ofNormalized? (cs ++ 'n' :: ds) = some ⟨a, b⟩ := by
  obtain ⟨htake, hdrop⟩ := Reader.split_at_first hcs ds
  have hmem : 'n' ∈ cs ++ 'n' :: ds := List.mem_append_right _ List.mem_cons_self
  have hodd : cs ++ 'n' :: ds ≠ ['o', 'd', 'd'] := by
    intro heq
    rw [heq] at hmem
    exact absurd hmem (by decide)
  -- the word has the letter at its end, and no coefficient before it
  have heven : cs ++ 'n' :: ds ≠ ['e', 'v', 'e', 'n'] := by
    intro heq
    have heve : cs = ['e', 'v', 'e'] := by
      rw [← htake, heq]
      rfl
    have hnone : coefficient? ['e', 'v', 'e'] = none := by decide
    rw [heve, hnone] at ha
    cases ha
  rw [ofNormalized?, if_neg hodd, if_neg heven, number?_eq_none hmem]
  dsimp only
  rw [hdrop, htake, ha]
  dsimp only
  rw [hb]
  rfl

/-- **The digits of a number are the expression that picks this position alone.** -/
theorem ofString?_toDigits {n : Nat} (hn : n < 2 ^ 31) :
    ofString? (String.ofList (Nat.toDigits 10 n)) = some ⟨0, Int32.ofNat n⟩ := by
  have hcs : ∀ c ∈ Nat.toDigits 10 n, c ∈ characters := fun c hc => by
    simp only [characters, List.mem_cons]
    exact Or.inr (Or.inr (Or.inr (Ascii.mem_digits_of_mem_toDigits hc)))
  rw [ofString?_of_characters hcs, ofNormalized?_of_number (number?_toDigits hn)]

/-- The digits of a number that does not fit are no expression.  They are read as no word, as no
    number, and have no letter to be split at. -/
theorem lt_of_ofString?_toDigits {n : Nat} {e : Nth}
    (h : ofString? (String.ofList (Nat.toDigits 10 n)) = some e) : n < 2 ^ 31 := by
  refine Nat.lt_of_not_le fun hn => ?_
  have hletters : ∀ c ∈ Ascii.digits, c ∈ characters ∧ c ≠ 'n' ∧ c ≠ 'o' ∧ c ≠ 'e' :=
    List.all_iff_forall_prop.1 (by decide)
  have hdigits : ∀ c ∈ Nat.toDigits 10 n, c ∈ characters ∧ c ≠ 'n' ∧ c ≠ 'o' ∧ c ≠ 'e' :=
    fun c hc => hletters c (Ascii.mem_digits_of_mem_toDigits hc)
  have hodd : Nat.toDigits 10 n ≠ ['o', 'd', 'd'] := fun heq =>
    (hdigits 'o' (by rw [heq]; decide)).2.2.1 rfl
  have heven : Nat.toDigits 10 n ≠ ['e', 'v', 'e', 'n'] := fun heq =>
    (hdigits 'e' (by rw [heq]; decide)).2.2.2 rfl
  -- a number alone has to fit 32 bits
  have hnumber : number? (Nat.toDigits 10 n) = none := by
    have hmax : Int32.maxValue.toInt = 2147483647 := by decide
    rw [number?_digits, word?, if_neg (by omega)]
  have hdrop : (Nat.toDigits 10 n).dropWhile (· ≠ 'n') = [] := by
    rw [List.dropWhile_eq_nil_iff]
    intro c hc
    exact decide_eq_true (hdigits c hc).2.1
  rw [ofString?_of_characters fun c hc => (hdigits c hc).1, ofNormalized?, if_neg hodd,
    if_neg heven, hnumber] at h
  dsimp only at h
  rw [hdrop] at h
  cases h

end Nth

end Pinpoint
