/-
  What an error says about the text.

  1. A fault is made where reading stops, and it carries what it found there: a character that cannot
     stand here with all that follows it, or the word that is wrong.  What it says of the text still to
     be read (`Fault.IsTrueOf`) it says of every text that ends in this one.
  2. **The step**, reader by reader: a fault is true of the text that the reader was given.  A reader
     that hands a rest on to another needs no more than that the rest is a suffix.
  3. **The run**: the same along the conditions of a compound, the compounds of an alternative and the
     alternatives of a selector.
  4. Places in bytes.  What stands before a suffix ends between two characters, so the place of a
     character at fault is a place in the text, and this character is there (`parse_points_at_fault`).
-/
import Mathlib.Data.List.TakeWhile
import Mathlib.Data.String.Basic
import Pinpoint.Proofs.Selector.Appending

namespace Pinpoint

namespace Reader

variable {s t rest : List Char} {f : Fault}

/-! ## What a fault says

  Readers work on a list of characters and hand on the rest of it.  A fault is about the list that
  the failing reader had, which is the end of the list that its caller had. -/

/-- What a fault says of a text still to be read.

    A character that cannot stand where it stands is the first of a suffix of the text.  An
    identifier at fault starts with a digit, behind a hyphen or not.  An argument at fault stands
    between brackets and is no expression.  The other two faults say nothing about a place. -/
def Fault.IsTrueOf (s : List Char) : Fault → Prop
  | .unexpected c after => c :: after <:+ s
  | .invalidIdentifier w =>
    ∃ d more, d.isDigit = true ∧ (w.toList = d :: more ∨ w.toList = '-' :: d :: more)
  | .invalidNth arg =>
    (∃ before after, s = before ++ '(' :: (arg.toList ++ ')' :: after)) ∧ ')' ∉ arg.toList ∧
      Nth.ofString? arg = none
  | .unexpectedEnd | .unsupportedPseudoClass _ => True

/-- What is true of the end of a text is true of the text.  This is what makes the step lemmas
    compose: a reader that hands on a rest needs to know of the rest only that it is a suffix. -/
theorem Fault.IsTrueOf.of_suffix (h : f.IsTrueOf t) (ht : t <:+ s) : f.IsTrueOf s := by
  cases f with
  | unexpected c after => exact List.IsSuffix.trans h ht
  | unexpectedEnd => trivial
  | invalidIdentifier w => exact h
  | unsupportedPseudoClass w => trivial
  | invalidNth arg =>
    obtain ⟨⟨before, after, rfl⟩, hclosed, hnone⟩ := h
    obtain ⟨front, rfl⟩ := ht
    refine ⟨⟨front ++ before, after, ?_⟩, hclosed, hnone⟩
    rw [List.append_assoc]

/-- A fault made at the place where reading stops is true of the text from there on. -/
theorem faultAt_isTrueOf (s : List Char) : (faultAt s).IsTrueOf s := by
  cases s with
  | nil => trivial
  | cons c after => exact List.suffix_refl _

/-- A reader that runs two others fails where the first one fails, or where the second one fails on
    what the first one left. -/
theorem bind_error_iff {α β : Type} {x : Except Fault α} {g : α → Except Fault β} :
    (x >>= g) = .error f ↔ x = .error f ∨ ∃ a, x = .ok a ∧ g a = .error f := by
  cases x <;> simp [bind, Except.bind]

/-- Changing a result does not change a fault. -/
theorem map_error_iff {α β : Type} {x : Except Fault α} {g : α → β} :
    x.map g = .error f ↔ x = .error f := by
  cases x <;> simp [Except.map]

/-! ## Names and identifiers

  The innermost readers, where most faults are made. -/

/-- A character was asked for: either another one stands there, or the text is at its end. -/
theorem expect_fault {c : Char} (h : expect c s = .error f) : f.IsTrueOf s := by
  cases s with
  | nil => cases h; trivial
  | cons d after =>
    rw [expect] at h
    split at h
    · cases h
    · cases h
      exact List.suffix_refl _

/-- Name characters end only where a backslash ends the text: any other character that is no name
    character ends the name and is no fault. -/
theorem nameChars_fault (h : nameChars s = .error f) : f = .unexpectedEnd := by
  fun_induction nameChars s with
  | case1 => cases h
  | case2 => cases h; rfl
  | case3 c s ih =>
    rcases bind_error_iff.1 h with h | ⟨a, -, h⟩
    · exact ih h
    · cases h
  | case4 c s _ _ hc ih =>
    rcases bind_error_iff.1 h with h | ⟨a, -, h⟩
    · exact ih h
    · cases h
  | case5 => cases h

/-- A name is refused where it has no character.  What stands there instead is what the fault
    names. -/
theorem name_fault (h : name s = .error f) : f.IsTrueOf s := by
  rcases bind_error_iff.1 h with h | ⟨⟨cs, r⟩, hs, h⟩
  · rw [nameChars_fault h]
    trivial
  · dsimp only at h
    split at h
    · cases h
      exact (faultAt_isTrueOf r).of_suffix (nameChars_suffix hs).1
    · cases h

/-- The two ways in which an identifier would start like a number. -/
theorem exists_digit_of_startsLikeNumber {cs : List Char} (h : startsLikeNumber cs = true) :
    ∃ d more, d.isDigit = true ∧ (cs = d :: more ∨ cs = '-' :: d :: more) := by
  fun_cases startsLikeNumber cs with
  | case1 d more => exact ⟨d, more, h, Or.inr rfl⟩
  | case2 d more _ => exact ⟨d, more, by simpa [startsLikeNumber] using h, Or.inl rfl⟩
  | case3 => cases h

/-- An identifier is a name that does not start like a number; the fault carries the name as it was
    read, escapes undone. -/
theorem ident_fault (h : ident s = .error f) : f.IsTrueOf s := by
  rcases bind_error_iff.1 h with h | ⟨⟨w, r⟩, -, h⟩
  · exact name_fault h
  · dsimp only at h
    split at h
    · rename_i hbad
      cases h
      rw [Bool.and_eq_true] at hbad
      exact exists_digit_of_startsLikeNumber hbad.1
    · cases h

/-! ## Attribute tests

  From here on a reader runs several others, one behind another.  The proofs go through them in
  order: a fault of the next reader is true of the rest that it was given, and this rest is a suffix
  of the text. -/

/-- A quoted text ends only where the text ends.  Any character may stand in it, the quote itself
    behind a backslash. -/
theorem quoted_fault {q : Char} (h : quoted q s = .error f) : f = .unexpectedEnd := by
  fun_induction quoted q s with
  | case1 => cases h; rfl
  | case2 => cases h
  | case3 => cases h; rfl
  | case4 d s _ ih =>
    rcases bind_error_iff.1 h with h | ⟨a, -, h⟩
    · exact ih h
    · cases h
  | case5 c s _ _ ih =>
    rcases bind_error_iff.1 h with h | ⟨a, -, h⟩
    · exact ih h
    · cases h

/-- A comparison is `=`, or one of five characters followed by `=`. -/
theorem comparison_fault (h : comparison s = .error f) : f.IsTrueOf s := by
  cases s with
  | nil => cases h; trivial
  | cons c after =>
    rw [comparison] at h
    split at h
    · cases h
    · split at h
      · cases h
        exact List.suffix_refl _
      · rcases bind_error_iff.1 h with h | ⟨r, -, h⟩
        · exact (expect_fault h).of_suffix (List.suffix_cons c after)
        · cases h

/-- A value is quoted, or an identifier. -/
theorem attributeValue_fault (h : attributeValue s = .error f) : f.IsTrueOf s := by
  cases s with
  | nil => cases h; trivial
  | cons c after =>
    rw [attributeValue] at h
    split at h
    · rcases bind_error_iff.1 h with h | ⟨a, -, h⟩
      · rw [quoted_fault h]
        trivial
      · cases h
    · exact ident_fault h

/-- The test in brackets: a name, and maybe a comparison, a value and a flag, with blanks in
    between.  Each of them starts in a suffix of the text, and the facts `hr`, `hr₁` and `hr₂`
    follow the place along. -/
theorem attributeTest_fault (h : attributeTest s = .error f) : f.IsTrueOf s := by
  rcases bind_error_iff.1 h with h | ⟨⟨w, r⟩, hw, h⟩
  · exact (ident_fault h).of_suffix (skipBlanks_suffix s)
  have hr : skipBlanks r <:+ s :=
    ((skipBlanks_suffix r).trans (ident_consumes hw).isSuffix).trans (skipBlanks_suffix s)
  dsimp only at h
  split at h
  · cases h
  · rcases bind_error_iff.1 h with h | ⟨⟨op, r₁⟩, h₁, h⟩
    · exact (comparison_fault h).of_suffix hr
    have hr₁ : skipBlanks r₁ <:+ s :=
      ((skipBlanks_suffix r₁).trans (comparison_consumes h₁).isSuffix).trans hr
    rcases bind_error_iff.1 h with h | ⟨⟨v, r₂⟩, h₂, h⟩
    · exact (attributeValue_fault h).of_suffix hr₁
    have hr₂ : (caseFlag (skipBlanks r₂)).2 <:+ s :=
      (((caseFlag_suffix _).trans (skipBlanks_suffix r₂)).trans
        (attributeValue_consumes h₂).isSuffix).trans hr₁
    rcases bind_error_iff.1 h with h | ⟨r₃, -, h⟩
    · exact (expect_fault h).of_suffix hr₂
    · cases h

/-! ## Pseudo-classes

  The one kind of fault that is made behind its place: whether an argument is an expression is only
  looked at when it has been read. -/

/-- The argument that is read stands between its bracket and the first closing one, so it has no
    closing bracket inside. -/
theorem split_of_argument {arg : String} (h : argument s = .ok (some arg, rest)) :
    s = '(' :: (arg.toList ++ ')' :: rest) ∧ ')' ∉ arg.toList := by
  fun_cases argument s with
  | case1 t =>
    obtain ⟨r, hr, h⟩ := bind_ok_iff.1 h
    cases h
    rw [String.toList_ofList]
    -- the argument ends ahead of the first closing bracket
    have hclosed : ')' ∉ t.takeWhile (· ≠ ')') := by
      intro hmem
      have hne := List.mem_takeWhile_imp hmem
      rw [decide_eq_true_iff] at hne
      exact hne rfl
    refine ⟨?_, hclosed⟩
    cases hd : t.dropWhile (· ≠ ')') with
    | nil =>
      rw [hd] at hr
      cases hr
    | cons d r' =>
      rw [hd, expect] at hr
      split at hr
      · rename_i hd'
        cases hr
        have hall : t = t.takeWhile (· ≠ ')') ++ t.dropWhile (· ≠ ')') :=
          List.takeWhile_append_dropWhile.symm
        rw [hd, hd'] at hall
        exact congrArg ('(' :: ·) hall
      · cases hr
  | case2 t ht =>
    rw [argument] at h
    · cases h
    · exact ht

/-- An argument is only refused where its closing bracket is missing. -/
theorem argument_fault (h : argument s = .error f) : f.IsTrueOf s := by
  fun_cases argument s with
  | case1 t =>
    rcases bind_error_iff.1 h with h | ⟨a, -, h⟩
    · exact ((expect_fault h).of_suffix (List.dropWhile_suffix _)).of_suffix (List.suffix_cons _ _)
    · cases h
  | case2 t ht =>
    rw [argument] at h
    · cases h
    · exact ht

/-- A pseudo-class is unknown, or its argument is no expression. -/
theorem pseudoClassOf_fault {word : String} {arg : Option String}
    (h : pseudoClassOf word arg = .error f) :
    f = .unsupportedPseudoClass word ∨
      ∃ a, arg = some a ∧ f = .invalidNth a ∧ Nth.ofString? a = none := by
  -- both pseudo-classes with an argument fail in the same way, on the argument alone
  have hnth : ∀ {a : String} {g : Nth → PseudoClass}, (nthArgument a).map g = .error f →
      f = .invalidNth a ∧ Nth.ofString? a = none := by
    intro a g h
    have h := map_error_iff.1 h
    rw [nthArgument] at h
    split at h
    · cases h
    · rename_i hnone
      cases h
      exact ⟨rfl, hnone⟩
  unfold pseudoClassOf at h
  split at h
  · left
    repeat' split at h
    all_goals cases h
    rfl
  · rename_i a
    split at h
    · exact Or.inr ⟨a, rfl, hnth h⟩
    · split at h
      · exact Or.inr ⟨a, rfl, hnth h⟩
      · cases h
        exact Or.inl rfl

/-- A pseudo-class: its word, its argument, and what they mean together.  The last step reads
    nothing, so for an argument that is no expression the place in the text comes from the step
    before (`split_of_argument`). -/
theorem pseudoClass_fault (h : pseudoClass s = .error f) : f.IsTrueOf s := by
  rcases bind_error_iff.1 h with h | ⟨⟨w, r⟩, hw, h⟩
  · exact ident_fault h
  have hr := (ident_consumes hw).isSuffix
  rcases bind_error_iff.1 h with h | ⟨⟨arg, r₁⟩, h₁, h⟩
  · exact (argument_fault h).of_suffix hr
  rcases bind_error_iff.1 h with h | ⟨p, -, h⟩
  · rcases pseudoClassOf_fault h with rfl | ⟨a, rfl, rfl, hnone⟩
    · trivial
    · obtain ⟨rfl, hclosed⟩ := split_of_argument h₁
      have hhere : (Fault.invalidNth a).IsTrueOf ('(' :: (a.toList ++ ')' :: r₁)) :=
        ⟨⟨[], r₁, rfl⟩, hclosed, hnone⟩
      exact hhere.of_suffix hr
  · cases h

/-! ## Compounds

  A compound repeats conditions until none follows.  The induction is on the recursion of
  `conditions`, and each step takes away at least the first character of a condition. -/

/-- A condition is known by its first character, and what is behind this one is read by one of the
    readers above. -/
theorem condition?_fault (h : condition? s = some (.error f)) : f.IsTrueOf s := by
  fun_cases condition? s with
  | case1 t =>
    have h := map_error_iff.1 (Option.some.inj h)
    exact (name_fault h).of_suffix (List.suffix_cons _ t)
  | case2 t =>
    have h := map_error_iff.1 (Option.some.inj h)
    exact (ident_fault h).of_suffix (List.suffix_cons _ t)
  | case3 t =>
    have h := map_error_iff.1 (Option.some.inj h)
    exact (attributeTest_fault h).of_suffix (List.suffix_cons _ t)
  | case4 t =>
    have h := map_error_iff.1 (Option.some.inj h)
    exact (pseudoClass_fault h).of_suffix (List.suffix_cons _ t)
  | case5 => simp_all [condition?]

/-- The run over the conditions of a compound. -/
theorem conditions_fault (h : conditions s = .error f) : f.IsTrueOf s := by
  fun_induction conditions s with
  | case1 => cases h
  | case2 s e hc => cases h; exact condition?_fault hc
  | case3 s c r hc ih =>
    rcases bind_error_iff.1 h with h | ⟨a, -, h⟩
    · exact (ih h).of_suffix (condition?_consumes hc).isSuffix
    · cases h

/-- The tag in front of a compound, if it starts like one. -/
theorem leading_fault (h : leading s = .error f) : f.IsTrueOf s := by
  cases s with
  | nil => cases h
  | cons c t =>
    rw [leading] at h
    split at h
    · cases h
    · split at h
      · exact ident_fault (map_error_iff.1 h)
      · cases h

/-- A compound is refused where it has neither a tag nor a condition. -/
theorem compound_fault (h : compound s = .error f) : f.IsTrueOf s := by
  rcases bind_error_iff.1 h with h | ⟨⟨front, r⟩, hfront, h⟩
  · exact leading_fault h
  have hr := (leading_suffix hfront).1
  rcases bind_error_iff.1 h with h | ⟨⟨cs, r'⟩, hcs, h⟩
  · exact (conditions_fault h).of_suffix hr
  dsimp only at h
  split at h
  · cases h
    exact ((faultAt_isTrueOf r').of_suffix (conditions_suffix hcs).1).of_suffix hr
  · cases h

/-! ## Alternatives

  The same induction twice more, along the parts of an alternative and the alternatives of a
  selector. -/

/-- A link is refused where no compound can start: at a character that is no link and no space
    before one. -/
theorem link_fault (h : link s = .error f) : f.IsTrueOf s := by
  have hs := skipBlanks_suffix s
  rw [link] at h
  split at h
  · cases h
  · rename_i c t heq
    rw [heq] at hs
    repeat' split at h
    all_goals cases h
    exact hs

/-- The run over the later parts of an alternative. -/
theorem laterParts_fault (h : laterParts s = .error f) : f.IsTrueOf s := by
  fun_induction laterParts s with
  | case1 s e hl => cases h; exact link_fault hl
  | case2 => cases h
  | case3 s op start hl e hc => cases h; exact (compound_fault hc).of_suffix (link_suffix hl)
  | case4 s op start hl c r hc ih =>
    rcases bind_error_iff.1 h with h | ⟨a, -, h⟩
    · exact (ih h).of_suffix ((compound_consumes hc).isSuffix.trans (link_suffix hl))
    · cases h

/-- An alternative: blanks, a compound, and the later parts. -/
theorem complex_fault (h : complex s = .error f) : f.IsTrueOf s := by
  rcases bind_error_iff.1 h with h | ⟨⟨c, r⟩, hc, h⟩
  · exact (compound_fault h).of_suffix (skipBlanks_suffix s)
  rcases bind_error_iff.1 h with h | ⟨a, -, h⟩
  · exact (laterParts_fault h).of_suffix
      ((compound_consumes hc).isSuffix.trans (skipBlanks_suffix s))
  · cases h

/-- **A fault met while reading a selector is true of its text.** -/
theorem alternatives_fault (h : alternatives s = .error f) : f.IsTrueOf s := by
  fun_induction alternatives s with
  | case1 s e hx => cases h; exact complex_fault hx
  | case2 => cases h
  | case3 s x r hx ih =>
    have hr := (complex_consumes hx).isSuffix
    exact (ih (map_error_iff.1 h)).of_suffix ((List.suffix_cons _ r).trans hr)
  | case4 s x c r hx hc => cases h; exact (complex_consumes hx).isSuffix

/-! ## Places in bytes

  An error says a place and not a rest.  Characters take one to four bytes, so the place is right
  only if the bytes of a whole number of characters stand before it. -/

/-- The length that the readers count with is the one of the library. -/
theorem byteLength_eq_utf8Len (s : List Char) : byteLength s = String.utf8Len s := by
  induction s with
  | nil => rfl
  | cons c s ih =>
    show c.utf8Size + byteLength s = String.utf8Len (c :: s)
    rw [ih, String.utf8Len_cons, Nat.add_comm]

/-- **Counted back from the end, the place of a suffix is a place in the text**, and its first
    character is there.  The readers keep no count of what they have read; the difference of the two
    lengths is the length of what stands before. -/
theorem place_of_suffix {text : String} {c : Char} {after : List Char}
    (h : c :: after <:+ text.toList) :
    byteLength text.toList - byteLength (c :: after) < text.utf8ByteSize ∧
      String.Pos.Raw.IsValid text ⟨byteLength text.toList - byteLength (c :: after)⟩ ∧
      String.Pos.Raw.get text ⟨byteLength text.toList - byteLength (c :: after)⟩ = c := by
  obtain ⟨before, hsplit⟩ := h
  have htext : text = String.ofList (before ++ c :: after) := by
    rw [hsplit, String.ofList_toList]
  have hplace : byteLength text.toList - byteLength (c :: after) = String.utf8Len before := by
    rw [← hsplit, byteLength_eq_utf8Len, byteLength_eq_utf8Len, String.utf8Len_append]
    omega
  rw [hplace, htext]
  refine ⟨?_, ?_, ?_⟩
  · rw [String.utf8ByteSize_ofList, String.utf8Len_append, String.utf8Len_cons]
    have hpos := c.utf8Size_pos
    omega
  · rw [String.Pos.Raw.isValid_iff_exists_append]
    refine ⟨String.ofList before, String.ofList (c :: after), String.ofList_append, ?_⟩
    rw [String.rawEndPos, String.utf8ByteSize_ofList]
  · rw [String.get_of_valid]
    rfl

end Reader

/-! ## Errors

  The parser refuses a blank text by itself, before a reader sees it. -/

namespace Selector

/-- **A text is refused as empty exactly if it is blank.** -/
theorem parse_eq_empty_iff {s : String} :
    parse s = .error .empty ↔ ∀ c ∈ s.toList, Text.isSpace c = true := by
  rw [← List.all_eq_true, ← Text.isBlankText]
  unfold parse
  constructor
  · intro h
    split at h
    · assumption
    · -- no fault of a reader is written as the error of a blank text
      cases halt : Reader.alternatives s.toList with
      | ok x => rw [halt] at h; cases h
      | error f => rw [halt] at h; cases f <;> cases h
  · intro h
    rw [if_pos h]

/-- Any other error writes down a fault that is true of the text.  What `errorOf` adds to the fault
    is the place, counted from the length of the rest. -/
theorem exists_fault_of_parse {s : String} {e : SelectorError} (h : parse s = .error e)
    (he : e ≠ .empty) : ∃ f, f.IsTrueOf s.toList ∧ Reader.errorOf s.toList f = e := by
  unfold parse at h
  split at h
  · cases h
    exact absurd rfl he
  · cases halt : Reader.alternatives s.toList with
    | ok x => rw [halt] at h; cases h
    | error f =>
      rw [halt] at h
      cases h
      exact ⟨f, Reader.alternatives_fault halt, rfl⟩

/-- **Errors point at the truth.**

    The place of a character that cannot stand where it stands is a place of the text, between two
    characters, and this character is there.  A text is refused as empty exactly when it is nothing but
    white space.  An identifier that is refused starts with a digit, or with a hyphen and a digit.  An
    argument that is refused stands in the text between a bracket and the next closing one, and is no
    `An+B` expression. -/
theorem parse_points_at_fault (s : String) :
    (∀ found offset, parse s = .error (.unexpectedChar found offset) →
      offset < s.utf8ByteSize ∧ String.Pos.Raw.IsValid s ⟨offset⟩ ∧
        String.Pos.Raw.get s ⟨offset⟩ = found) ∧
    (parse s = .error .empty ↔ ∀ c ∈ s.toList, Text.isSpace c = true) ∧
    (∀ w, parse s = .error (.invalidIdentifier w) →
      w ≠ "" ∧ ∃ d more, d.isDigit = true ∧
        (w.toList = d :: more ∨ w.toList = '-' :: d :: more)) ∧
    ∀ arg, parse s = .error (.invalidNth arg) →
      (∃ before after, s = before ++ "(" ++ arg ++ ")" ++ after) ∧ ')' ∉ arg.toList ∧
        Nth.ofString? arg = none := by
  refine ⟨fun found offset h => ?_, parse_eq_empty_iff, fun w h => ?_, fun arg h => ?_⟩
  · obtain ⟨f, hf, herr⟩ := exists_fault_of_parse h (by simp)
    cases f <;> cases herr
    exact Reader.place_of_suffix hf
  · obtain ⟨f, hf, herr⟩ := exists_fault_of_parse h (by simp)
    cases f <;> cases herr
    obtain ⟨d, more, hd, hw⟩ := hf
    refine ⟨?_, d, more, hd, hw⟩
    rintro rfl
    rcases hw with hw | hw <;> cases hw
  · obtain ⟨f, hf, herr⟩ := exists_fault_of_parse h (by simp)
    cases f <;> cases herr
    obtain ⟨⟨before, after, hs⟩, hclosed, hnone⟩ := hf
    refine ⟨⟨String.ofList before, String.ofList after, ?_⟩, hclosed, hnone⟩
    rw [← String.toList_inj, hs]
    simp

/-- Each kind of error, behind characters of two and three bytes.  The place of `?` is counted in
    bytes: it is the sixteenth character of its text, at byte 18. -/
theorem parse_points_at_fault_wide :
    (parse "naïve > .größe ?" = .error (.unexpectedChar '?' 18) ∧
      18 < "naïve > .größe ?".utf8ByteSize ∧
      String.Pos.Raw.IsValid "naïve > .größe ?" ⟨18⟩ ∧
      String.Pos.Raw.get "naïve > .größe ?" ⟨18⟩ = '?') ∧
    parse "\t\u3000" = .error .empty ∧
    (parse "größe.-1x" = .error (.invalidIdentifier "-1x") ∧
      ∃ d more, d.isDigit = true ∧
        ("-1x".toList = d :: more ∨ "-1x".toList = '-' :: d :: more)) ∧
    (parse "größe:nth-child(2é), p" = .error (.invalidNth "2é") ∧
      ∃ before after, "größe:nth-child(2é), p" = before ++ "(" ++ "2é" ++ ")" ++ after) := by
  have hchar : parse "naïve > .größe ?" = .error (.unexpectedChar '?' 18) := by decide +kernel
  have hword : parse "größe.-1x" = .error (.invalidIdentifier "-1x") := by decide +kernel
  have harg : parse "größe:nth-child(2é), p" = .error (.invalidNth "2é") := by decide +kernel
  refine ⟨⟨hchar, (parse_points_at_fault _).1 _ _ hchar⟩, ?_, ⟨hword, ?_⟩, harg, ?_⟩
  · exact (parse_points_at_fault "\t\u3000").2.1.2 (List.all_eq_true.1 (by decide))
  · exact ((parse_points_at_fault "größe.-1x").2.2.1 _ hword).2
  · exact ((parse_points_at_fault "größe:nth-child(2é), p").2.2.2 _ harg).1

end Selector

end Pinpoint
