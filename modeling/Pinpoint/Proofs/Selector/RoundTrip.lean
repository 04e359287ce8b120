/-
  Reading back what is written.

  Each part is read back with some text behind it.  What this text may start with is the same for
  all parts of one kind: nothing that a name or an argument goes on with behind a condition
  (`EndsCondition`), a space or a comma behind a compound (`EndsCompound`), a comma behind an
  alternative (`EndsComplex`), or there is no such text.  What is written next always starts in
  this way, so the parts are read back one after the other.

  1. Numbers and expressions.
  2. Names and quoted texts: a backslash makes any character a part of the text.
  3. Conditions: tests, pseudo-classes, names with a sign.
  4. Compounds, from their leading star or tag on.
  5. Alternatives, their compounds joined by links.
  6. Selectors (`Selector.parse_print`).
-/
import Mathlib.Data.List.Basic
import Pinpoint.Proofs.Selector.PlainText
import Pinpoint.Proofs.Selector.WellFormed

namespace Pinpoint

/-! ## Numbers and expressions

  An expression is written in full: the coefficient, the letter, and the offset with its sign.
  Shorter forms are only read. -/

namespace Nth

/-- A written number is read as the number, if it fits. -/
theorem number?_writtenNumber (n : Int) : number? (writtenNumber n) = word? n := by
  unfold writtenNumber
  split
  · have hneg : -(n.natAbs : Int) = n := by omega
    rw [number?_minus, hneg]
  · have hpos : (n.natAbs : Int) = n := by omega
    rw [number?_digits, hpos]

/-- A number is a coefficient as it stands: none is empty or a bare sign. -/
theorem coefficient?_of_number {cs : List Char} {a : Int32} (h : number? cs = some a) :
    coefficient? cs = some a := by
  have hne : ∀ ds : List Char, number? ds = none → cs ≠ ds := by
    rintro ds hnone rfl
    rw [hnone] at h
    cases h
  have hnil := hne [] (by decide)
  have hplus := hne ['+'] (by decide)
  have hminus := hne ['-'] (by decide)
  rw [coefficient?]
  simp only [hnil, hplus, hminus, decide_false, Bool.or_self, if_false, Bool.false_eq_true]
  exact h

/-- The coefficient is read back. -/
theorem coefficient?_written (n : Int32) : coefficient? (writtenNumber n.toInt) = some n := by
  apply coefficient?_of_number
  rw [number?_writtenNumber, word?_toInt]

/-- The offset is read back.  It is written with a sign in any case, as it follows a letter. -/
theorem offset?_written (n : Int32) :
    offset? ((if n.toInt < 0 then [] else ['+']) ++ writtenNumber n.toInt) = some n := by
  unfold writtenNumber
  split
  · have hneg : -(n.toInt.natAbs : Int) = n.toInt := by omega
    rw [List.nil_append, offset?, if_pos (by decide), number?_minus, hneg, word?_toInt]
  · have hpos : (n.toInt.natAbs : Int) = n.toInt := by omega
    rw [List.singleton_append, offset?, if_pos (by decide), number?_plus, hpos, word?_toInt]

/-- A number is written in digits and a minus. -/
theorem mem_writtenNumber {n : Int} {c : Char} (h : c ∈ writtenNumber n) :
    c ∈ '-' :: Ascii.digits := by
  unfold writtenNumber at h
  split at h
  · rcases List.mem_cons.1 h with rfl | h
    · exact List.mem_cons_self
    · exact List.mem_cons_of_mem _ (Ascii.mem_digits_of_mem_toDigits h)
  · exact List.mem_cons_of_mem _ (Ascii.mem_digits_of_mem_toDigits h)

/-- An expression is written in the characters that one may have. -/
theorem mem_written {e : Nth} {c : Char} (h : c ∈ e.written) : c ∈ characters := by
  have hsub : ∀ c ∈ '-' :: Ascii.digits, c ∈ characters := List.all_iff_forall_prop.1 (by decide)
  rw [written, List.mem_append, List.mem_cons, List.mem_append] at h
  rcases h with h | rfl | h | h
  · exact hsub c (mem_writtenNumber h)
  · decide
  · split at h
    · cases h
    · rw [List.mem_singleton.1 h]
      decide
  · exact hsub c (mem_writtenNumber h)

/-- **An expression is read back.** -/
theorem ofString?_written (e : Nth) : ofString? (String.ofList e.written) = some e := by
  have hletter : 'n' ∉ writtenNumber e.a.toInt := fun h =>
    absurd (mem_writtenNumber h) (by decide)
  rw [ofString?_of_characters fun c hc => mem_written hc]
  exact ofNormalized?_of_letter hletter (coefficient?_written e.a) (offset?_written e.b)

end Nth

/-! ## Names and quoted texts

  A printer that wrote names as they are would have to know when this is possible.  This one writes
  a backslash before every character that is no name character, and before the first one of a name
  in any case. -/

/-- A name that is in lower case already stays as it is. -/
theorem Ascii.lower_of_isLowerName {w : String} (h : isLowerName w = true) : Ascii.lower w = w := by
  rw [isLowerName, List.all_eq_true] at h
  exact lower_of_not_isUpper fun c hc => by simpa using h c hc

namespace Reader

variable {rest : List Char}

/-- An escaped character is one of the name, whatever it is. -/
theorem nameChars_escape (c : Char) (s : List Char) :
    nameChars ('\\' :: c :: s) = nameChars s >>= fun r => .ok (c :: r.1, r.2) := by
  rw [nameChars]
  rfl

/-- Characters written one by one, escaped where they have to be, are read back up to the end of the
    name. -/
theorem nameChars_written (hrest : nameChars rest = .ok ([], rest)) (cs : List Char) :
    nameChars (cs.flatMap writtenNameChar ++ rest) = .ok (cs, rest) := by
  induction cs with
  | nil => exact hrest
  | cons c cs ih =>
    rw [List.flatMap_cons, List.append_assoc, writtenNameChar]
    split
    · rename_i hc
      have hne : c ≠ '\\' := by
        rintro rfl
        exact absurd hc (by decide)
      rw [List.singleton_append, nameChars_cons hne, if_pos hc, ih]
      rfl
    · rw [List.cons_append, List.singleton_append, nameChars_escape, ih]
      rfl

/-- A written name starts with a backslash, so that its first character is never taken for anything
    else. -/
theorem exists_writtenName {w : String} (hw : w ≠ "") :
    ∃ c cs, w.toList = c :: cs ∧ writtenName w = '\\' :: c :: cs.flatMap writtenNameChar := by
  obtain ⟨c, cs, hcs⟩ := List.exists_cons_of_ne_nil (mt String.toList_eq_nil_iff.1 hw)
  exact ⟨c, cs, hcs, by rw [writtenName, hcs]⟩

/-- **A name is read back**, up to a character that is none of its own. -/
theorem name_written {w : String} (hw : w ≠ "") (hrest : nameChars rest = .ok ([], rest)) :
    name (writtenName w ++ rest) = .ok (w, rest) := by
  obtain ⟨c, cs, hcs, hwritten⟩ := exists_writtenName hw
  have hchars : nameChars (writtenName w ++ rest) = .ok (c :: cs, rest) := by
    rw [hwritten, List.cons_append, List.cons_append, nameChars_escape, nameChars_written hrest]
    rfl
  have hword : String.ofList (c :: cs) = w := by rw [← hcs, String.ofList_toList]
  refine bind_ok_iff.2 ⟨_, hchars, ?_⟩
  dsimp only
  rw [hword]
  rfl

/-- The backslash at its start keeps a name from being taken for a number.  A name may start with a
    digit, and is an identifier only if this digit is escaped. -/
theorem ident_written {w : String} (hw : w ≠ "") (hrest : nameChars rest = .ok ([], rest)) :
    ident (writtenName w ++ rest) = .ok (w, rest) := by
  have hhead : (writtenName w ++ rest).head? = some '\\' := by
    obtain ⟨c, cs, -, hwritten⟩ := exists_writtenName hw
    rw [hwritten]
    rfl
  refine bind_ok_iff.2 ⟨_, name_written hw hrest, ?_⟩
  dsimp only
  rw [hhead]
  simp
  rfl

/-- **A quoted text is read back**, whatever follows it. -/
theorem quoted_written (cs : List Char) (rest : List Char) :
    quoted '"' (cs.flatMap writtenQuotedChar ++ '"' :: rest) = .ok (cs, rest) := by
  induction cs with
  | nil => exact quoted_close '"' rest
  | cons c cs ih =>
    rw [List.flatMap_cons, List.append_assoc, writtenQuotedChar]
    split
    · rw [List.cons_append, List.singleton_append, quoted_escape (by decide), ih]
      rfl
    · rename_i hc
      simp only [Bool.or_eq_true, decide_eq_true_eq, not_or] at hc
      rw [List.singleton_append, quoted_cons hc.1 hc.2, ih]
      rfl

/-! ## Tests

  A test is written with its brackets, and its value always in quotes. -/

/-- A comparison is read back from its sign. -/
theorem comparison_written (op : Comparison) (rest : List Char) :
    comparison (op.sign ++ rest) = .ok (op, rest) := by
  cases op <;> rfl

/-- A comparison ends the name before it, and is no closing bracket. -/
theorem exists_sign (op : Comparison) (rest : List Char) :
    ∃ c t, op.sign ++ rest = c :: t ∧ isNameChar c = false ∧ c ≠ '\\' ∧ c ≠ ']' ∧
      Ascii.isBlank c = false := by
  cases op <;> exact ⟨_, _, rfl, by decide, by decide, by decide, by decide⟩

/-- A value is read back from its quotes. -/
theorem attributeValue_written (expected : String) (rest : List Char) :
    attributeValue (writtenQuoted expected ++ rest) = .ok (expected, rest) := by
  have hquoted : quoted '"' ((expected.toList.flatMap writtenQuotedChar ++ ['"']) ++ rest) =
      .ok (expected.toList, rest) := by
    rw [List.append_assoc]
    exact quoted_written _ rest
  rw [writtenQuoted, List.cons_append, attributeValue, if_pos (by decide)]
  refine bind_ok_iff.2 ⟨_, hquoted, ?_⟩
  dsimp only
  rw [String.ofList_toList]
  rfl

/-- The letter for case, or its absence, and the closing bracket. -/
theorem caseFlag_written (ignoreCase : Bool) (rest : List Char) :
    caseFlag (skipBlanks ((if ignoreCase then [' ', 'i'] else []) ++ ']' :: rest)) =
      (ignoreCase, ']' :: rest) := by
  cases ignoreCase <;> rfl

/-- No blank is skipped before a name. -/
theorem skipBlanks_writtenName {w : String} (hw : w ≠ "") (s : List Char) :
    skipBlanks (writtenName w ++ s) = writtenName w ++ s := by
  obtain ⟨c, cs, -, hwritten⟩ := exists_writtenName hw
  rw [hwritten]
  rfl

/-- The test for presence: a name and the closing bracket. -/
theorem attributeTest_presence {w : String} (hw : w ≠ "") (hlower : isLowerName w = true)
    (rest : List Char) :
    attributeTest (writtenName w ++ ']' :: rest) = .ok (⟨w, none, false⟩, rest) := by
  rw [attributeTest, skipBlanks_writtenName hw]
  refine bind_ok_iff.2 ⟨_, ident_written hw (nameChars_stop (by decide) (by decide) _), ?_⟩
  dsimp only
  rw [Ascii.lower_of_isLowerName hlower]
  rfl

/-- The test for a value: name, sign, quoted text, the letter for case if there is one, and the
    closing bracket. -/
theorem attributeTest_comparison {w : String} (hw : w ≠ "") (hlower : isLowerName w = true)
    (op : Comparison) (expected : String) (ignoreCase : Bool) (rest : List Char) :
    attributeTest (writtenName w ++ (op.sign ++ (writtenQuoted expected ++
      ((if ignoreCase then [' ', 'i'] else []) ++ ']' :: rest)))) =
      .ok (⟨w, some (op, expected), ignoreCase⟩, rest) := by
  generalize hflag : (if ignoreCase then [' ', 'i'] else []) ++ ']' :: rest = afterValue
  generalize hvalue : writtenQuoted expected ++ afterValue = afterSign
  obtain ⟨c, t, hsign, hname, hback, hclose, hblank⟩ := exists_sign op afterSign
  have hident : ident (writtenName w ++ (op.sign ++ afterSign)) = .ok (w, op.sign ++ afterSign) := by
    rw [hsign]
    exact ident_written hw (nameChars_stop hname hback t)
  have hskip : skipBlanks (op.sign ++ afterSign) = op.sign ++ afterSign := by
    rw [hsign, skipBlanks, List.dropWhile_cons, hblank]
    rfl
  have hskip' : skipBlanks afterSign = afterSign := by
    rw [← hvalue]
    rfl
  rw [attributeTest, skipBlanks_writtenName hw]
  refine bind_ok_iff.2 ⟨_, hident, ?_⟩
  dsimp only
  rw [Ascii.lower_of_isLowerName hlower, hskip]
  split
  · -- a comparison sign is no closing bracket
    rename_i heq
    rw [hsign] at heq
    exact absurd (List.cons.inj heq).1 hclose
  · refine bind_ok_iff.2 ⟨_, comparison_written op afterSign, ?_⟩
    dsimp only
    rw [hskip']
    refine bind_ok_iff.2 ⟨(expected, afterValue), ?_, ?_⟩
    · rw [← hvalue]
      exact attributeValue_written expected afterValue
    · dsimp only
      rw [← hflag, caseFlag_written]
      rfl

/-- **A test is read back.** -/
theorem condition?_attribute {t : AttributeTest} (h : (Component.attribute t).WellFormed)
    (rest : List Char) : condition? (t.written ++ rest) = some (.ok (.attribute t, rest)) := by
  obtain ⟨w, comparison?, ignoreCase⟩ := t
  obtain ⟨hw, hlower, hcase⟩ := h
  cases comparison? with
  | none =>
    have hfalse : ignoreCase = false := hcase rfl
    subst hfalse
    have hwritten : AttributeTest.written ⟨w, none, false⟩ ++ rest =
        '[' :: (writtenName w ++ ']' :: rest) := by
      simp [AttributeTest.written]
    rw [hwritten, condition?, attributeTest_presence hw hlower]
    rfl
  | some c =>
    obtain ⟨op, expected⟩ := c
    have hwritten : AttributeTest.written ⟨w, some (op, expected), ignoreCase⟩ ++ rest =
        '[' :: (writtenName w ++ (op.sign ++ (writtenQuoted expected ++
          ((if ignoreCase then [' ', 'i'] else []) ++ ']' :: rest)))) := by
      simp [AttributeTest.written]
    rw [hwritten, condition?, attributeTest_comparison hw hlower]
    rfl

/-! ## What stands behind a condition, and behind a compound

  A reader goes on as long as it can.  So a part is read back only if the text behind it is no
  continuation, and these conditions say what that means for each kind of part. -/

/-- Nothing that the name or the argument of a condition goes on with: no character of a name, no
    backslash, which would escape one, and no bracket. -/
def EndsCondition : List Char → Prop
  | [] => True
  | c :: _ => isNameChar c = false ∧ c ≠ '\\' ∧ c ≠ '('

/-- A space or a comma, or nothing. -/
def EndsCompound : List Char → Prop
  | [] => True
  | c :: _ => c = ' ' ∨ c = ','

/-- A name has ended there. -/
theorem EndsCondition.nameChars_eq (h : EndsCondition rest) : nameChars rest = .ok ([], rest) := by
  cases rest with
  | nil => rfl
  | cons c t => exact nameChars_stop h.1 h.2.1 t

/-- No argument follows. -/
theorem EndsCondition.argument_eq (h : EndsCondition rest) : argument rest = .ok (none, rest) := by
  cases rest with
  | nil => rfl
  | cons c t =>
    rw [argument]
    rintro t' heq
    exact h.2.2 (List.cons.inj heq).1

/-- What ends a compound ends its last condition. -/
theorem EndsCompound.endsCondition (h : EndsCompound rest) : EndsCondition rest := by
  cases rest with
  | nil => trivial
  | cons c t =>
    rcases h with rfl | rfl
    · exact ⟨by decide, by decide, by decide⟩
    · exact ⟨by decide, by decide, by decide⟩

/-- No further condition follows. -/
theorem EndsCompound.condition?_eq (h : EndsCompound rest) : condition? rest = none := by
  cases rest with
  | nil => rfl
  | cons c t =>
    rcases h with rfl | rfl
    · exact stops_space.not_condition t
    · rfl

/-! ## Conditions

  A condition with the text behind it.  Each lemma takes the condition on this text from the section
  above. -/

/-- A pseudo-class without an argument. -/
theorem condition?_word (word : String) {p : PseudoClass} (hword : word ∈ pseudoWords)
    (hp : pseudoClassOf word none = .ok p) (hrest : EndsCondition rest) :
    condition? (':' :: (word.toList ++ rest)) = some (.ok (.pseudo p, rest)) := by
  rw [condition?, pseudoClass_of_word hword hrest.nameChars_eq hrest.argument_eq hp]
  rfl

/-- An expression is read back from its brackets: no closing one is among its characters. -/
theorem argument_written (e : Nth) (rest : List Char) :
    argument ('(' :: (e.written ++ ')' :: rest)) = .ok (some (String.ofList e.written), rest) :=
  argument_closed (fun h => absurd (Nth.mem_written h) (by decide)) rest

/-- A pseudo-class with an expression, whatever follows its bracket. -/
theorem condition?_nth (word : String) (make : Nth → PseudoClass) (hword : word ∈ pseudoWords)
    (hmake : ∀ arg, pseudoClassOf word (some arg) = (nthArgument arg).map make) (e : Nth)
    (rest : List Char) :
    condition? (':' :: (word.toList ++ '(' :: (e.written ++ ')' :: rest))) =
      some (.ok (.pseudo (make e), rest)) := by
  have hp : pseudoClassOf word (some (String.ofList e.written)) = .ok (make e) := by
    rw [hmake, nthArgument, Nth.ofString?_written]
    rfl
  rw [condition?, pseudoClass_of_word hword (nameChars_stop (by decide) (by decide) _)
    (argument_written e rest) hp]
  rfl

/-- **A pseudo-class is read back.**  Five of them are words, and two take an expression. -/
theorem condition?_pseudo (p : PseudoClass) (hrest : EndsCondition rest) :
    condition? (p.written ++ rest) = some (.ok (.pseudo p, rest)) := by
  cases p with
  | root => exact condition?_word "root" (by decide) rfl hrest
  | empty => exact condition?_word "empty" (by decide) rfl hrest
  | firstChild => exact condition?_word "first-child" (by decide) rfl hrest
  | lastChild => exact condition?_word "last-child" (by decide) rfl hrest
  | onlyChild => exact condition?_word "only-child" (by decide) rfl hrest
  | nthChild e =>
    have hwritten : (PseudoClass.nthChild e).written =
        ':' :: ("nth-child".toList ++ '(' :: (e.written ++ [')'])) := rfl
    have hread := condition?_nth "nth-child" .nthChild (by decide) (fun _ => rfl) e rest
    rw [hwritten]
    simpa only [List.cons_append, List.append_assoc, List.nil_append] using hread
  | nthLastChild e =>
    have hwritten : (PseudoClass.nthLastChild e).written =
        ':' :: ("nth-last-child".toList ++ '(' :: (e.written ++ [')'])) := rfl
    have hread := condition?_nth "nth-last-child" .nthLastChild (by decide) (fun _ => rfl) e rest
    rw [hwritten]
    simpa only [List.cons_append, List.append_assoc, List.nil_append] using hread

/-- **A condition is read back**, a star or a tag apart.  The first character tells the reader which
    kind it is, so there is one case for each. -/
theorem condition?_written {c : Component} (hc : c.WellFormed) (hlead : c.isLeading = false)
    (hrest : EndsCondition rest) : condition? (c.written ++ rest) = some (.ok (c, rest)) := by
  match c, hc, hlead with
  | .id w, hw, _ =>
    rw [Component.written, List.cons_append, condition?, name_written hw hrest.nameChars_eq]
    rfl
  | .className w, hw, _ =>
    rw [Component.written, List.cons_append, condition?, ident_written hw hrest.nameChars_eq]
    rfl
  | .attribute t, ht, _ => exact condition?_attribute ht rest
  | .pseudo p, _, _ => exact condition?_pseudo p hrest

/-- The signs that conditions are written with at their start. -/
def conditionStarts : List Char := ['#', '.', '[', ':']

/-- A condition starts with one of four signs. -/
theorem exists_condition_start {c : Component} (hlead : c.isLeading = false) :
    ∃ d t, c.written = d :: t ∧ d ∈ conditionStarts := by
  match c, hlead with
  | .id w, _ => exact ⟨_, _, rfl, by decide⟩
  | .className w, _ => exact ⟨_, _, rfl, by decide⟩
  | .attribute t, _ => exact ⟨_, _, rfl, by decide⟩
  | .pseudo p, _ => cases p <;> exact ⟨_, _, rfl, by decide⟩

/-- The next condition ends the one before. -/
theorem endsCondition_written {cs : List Component} (hlead : ∀ c ∈ cs, c.isLeading = false)
    (hrest : EndsCondition rest) : EndsCondition (Compound.written cs ++ rest) := by
  cases cs with
  | nil => exact hrest
  | cons c cs =>
    have hends : ∀ d ∈ conditionStarts, isNameChar d = false ∧ d ≠ '\\' ∧ d ≠ '(' :=
      List.all_iff_forall_prop.1 (by decide)
    obtain ⟨d, t, hstart, hd⟩ := exists_condition_start (hlead c List.mem_cons_self)
    rw [Compound.written, List.flatMap_cons, hstart]
    exact hends d hd

/-! ## Compounds

  A compound is a row of conditions with a star or a tag at the front, if it has one. -/

/-- A compound is written item by item. -/
theorem compound_written_cons (c : Component) (cs : List Component) (rest : List Char) :
    Compound.written (c :: cs) ++ rest = c.written ++ (Compound.written cs ++ rest) := by
  rw [Compound.written, List.flatMap_cons, List.append_assoc]
  rfl

/-- **Conditions are read back**, one after the other.  By induction on the list; the reader of the
    first one has the text of all others behind it. -/
theorem conditions_written {cs : List Component}
    (hcs : ∀ c ∈ cs, c.WellFormed ∧ c.isLeading = false) (hrest : EndsCompound rest) :
    conditions (Compound.written cs ++ rest) = .ok (cs, rest) := by
  induction cs with
  | nil => exact conditions_of_none hrest.condition?_eq
  | cons c cs ih =>
    obtain ⟨⟨hc, hlead⟩, hlater⟩ := List.forall_mem_cons.1 hcs
    -- behind this condition stands the next one, or the end of the compound
    have hends := endsCondition_written (fun d hd => (hlater d hd).2) hrest.endsCondition
    rw [compound_written_cons, conditions_of_some (condition?_written hc hlead hends), ih hlater]
    rfl

/-- A star or a tag is read back at the start of a compound. -/
theorem leading_written {c : Component} (hc : c.WellFormed) (hlead : c.isLeading = true)
    (hrest : EndsCondition rest) : leading (c.written ++ rest) = .ok ([c], rest) := by
  match c, hc, hlead with
  | .universal, _, _ => rfl
  | .tag w, ⟨hw, hlower⟩, _ =>
    have hident := ident_written hw hrest.nameChars_eq
    -- a tag is looked for because of the backslash at the start of its name
    obtain ⟨d, ds, -, hwritten⟩ := exists_writtenName hw
    rw [hwritten, List.cons_append] at hident
    rw [Component.written, hwritten, List.cons_append, leading, if_neg (by decide),
      if_pos (by decide), hident]
    refine map_ok_iff.2 ⟨_, rfl, ?_⟩
    dsimp only
    rw [Ascii.lower_of_isLowerName hlower]

/-- Where a condition starts, no star and no tag does. -/
theorem leading_condition {d : Char} (hd : d ∈ conditionStarts) (t : List Char) :
    leading (d :: t) = .ok ([], d :: t) := by
  have hplain : ∀ d ∈ conditionStarts, d ≠ '*' ∧ isIdentStart d = false :=
    List.all_iff_forall_prop.1 (by decide)
  exact leading_of_ne (hplain d hd).1 (hplain d hd).2 t

/-- **A compound is read back.**  With a star or a tag in front, this is read first and the
    conditions after it. -/
theorem compound_written {k : Compound} (hk : Compound.WellFormed k) (hrest : EndsCompound rest) :
    compound (Compound.written k ++ rest) = .ok (k, rest) := by
  obtain ⟨hne, hwell, htail⟩ := hk
  obtain ⟨c, cs, rfl⟩ := List.exists_cons_of_ne_nil hne
  obtain ⟨hc, hcs⟩ := List.forall_mem_cons.1 hwell
  have hlater : ∀ x ∈ cs, x.WellFormed ∧ x.isLeading = false := fun x hx => ⟨hcs x hx, htail x hx⟩
  cases hlead : c.isLeading with
  | true =>
    have hends := endsCondition_written (fun x hx => (hlater x hx).2) hrest.endsCondition
    rw [compound_written_cons]
    exact bind_ok_iff.2 ⟨_, leading_written hc hlead hends,
      bind_ok_iff.2 ⟨_, conditions_written hlater hrest, rfl⟩⟩
  | false =>
    -- nothing leads the compound, and its first condition is read with the others
    obtain ⟨d, t, hstart, hd⟩ := exists_condition_start hlead
    have hfront : leading (Compound.written (c :: cs) ++ rest) =
        .ok ([], Compound.written (c :: cs) ++ rest) := by
      rw [compound_written_cons, hstart]
      exact leading_condition hd _
    have hall : ∀ x ∈ c :: cs, x.WellFormed ∧ x.isLeading = false :=
      List.forall_mem_cons.2 ⟨⟨hc, hlead⟩, hlater⟩
    exact bind_ok_iff.2 ⟨_, hfront, bind_ok_iff.2 ⟨_, conditions_written hall hrest, rfl⟩⟩

/-- What a compound is written with at its start. -/
def compoundStarts : List Char := '*' :: '\\' :: conditionStarts

/-- An item starts with one of six characters: the four signs, a star, or the backslash of a tag. -/
theorem exists_component_start {c : Component} (hc : c.WellFormed) :
    ∃ d t, c.written = d :: t ∧ d ∈ compoundStarts := by
  cases hlead : c.isLeading with
  | true =>
    match c, hc, hlead with
    | .universal, _, _ => exact ⟨_, _, rfl, by decide⟩
    | .tag w, ⟨hw, _⟩, _ =>
      obtain ⟨d, ds, -, hwritten⟩ := exists_writtenName hw
      exact ⟨_, _, hwritten, by decide⟩
  | false =>
    obtain ⟨d, t, hwritten, hd⟩ := exists_condition_start hlead
    exact ⟨d, t, hwritten, List.mem_cons_of_mem _ (List.mem_cons_of_mem _ hd)⟩

/-- So does a compound. -/
theorem exists_compound_start {k : Compound} (hk : Compound.WellFormed k) :
    ∃ d t, Compound.written k = d :: t ∧ d ∈ compoundStarts := by
  obtain ⟨hne, hwell, -⟩ := hk
  obtain ⟨c, cs, rfl⟩ := List.exists_cons_of_ne_nil hne
  obtain ⟨d, t, hwritten, hd⟩ := exists_component_start (hwell c List.mem_cons_self)
  exact ⟨d, t ++ Compound.written cs, by rw [Compound.written, List.flatMap_cons, hwritten]; rfl, hd⟩

/-- No blank is skipped before a compound. -/
theorem skipBlanks_compound {k : Compound} (hk : Compound.WellFormed k) (s : List Char) :
    skipBlanks (Compound.written k ++ s) = Compound.written k ++ s := by
  have hblank : ∀ d ∈ compoundStarts, Ascii.isBlank d = false :=
    List.all_iff_forall_prop.1 (by decide)
  obtain ⟨d, t, hwritten, hd⟩ := exists_compound_start hk
  rw [hwritten, List.cons_append, skipBlanks, List.dropWhile_cons, hblank d hd]
  rfl

/-! ## Alternatives

  The parts of an alternative are written one after another, with the sign of the combinator before
  each but the first. -/

/-- What stands behind an alternative: a comma, or nothing. -/
def EndsComplex : List Char → Prop
  | [] => True
  | c :: _ => c = ','

/-- The end of the text ends an alternative. -/
theorem EndsComplex.nil : EndsComplex [] := trivial

/-- So does a comma. -/
theorem EndsComplex.comma (t : List Char) : EndsComplex (',' :: t) := rfl

/-- What ends an alternative ends its last compound. -/
theorem EndsComplex.endsCompound (h : EndsComplex rest) : EndsCompound rest := by
  cases rest with
  | nil => trivial
  | cons c t => exact Or.inr h

/-- No further part follows. -/
theorem EndsComplex.laterParts_eq (h : EndsComplex rest) : laterParts rest = .ok ([], rest) := by
  cases rest with
  | nil => exact laterParts_of_none rfl
  | cons c t =>
    obtain rfl : c = ',' := h
    exact laterParts_of_none rfl

/-- A further compound is written with a space before it. -/
theorem endsCompound_written (ps : List Part) (hrest : EndsComplex rest) :
    EndsCompound (ps.flatMap Part.written ++ rest) := by
  cases ps with
  | nil => exact hrest.endsCompound
  | cons p ps =>
    obtain ⟨op, k⟩ := p
    rw [List.flatMap_cons, Part.written]
    cases op.getD .descendant with
    | descendant => exact Or.inl rfl
    | child => exact Or.inl rfl

/-- The sign of a combinator is read back before a compound. -/
theorem link_written (op : Combinator) {k : Compound} (hk : Compound.WellFormed k)
    (hrest : EndsCompound rest) :
    link (op.written ++ (Compound.written k ++ rest)) =
      .ok (some (op, Compound.written k ++ rest)) := by
  have hskip := skipBlanks_compound hk rest
  cases op with
  | descendant =>
    have hlink := link_space (s := Compound.written k ++ rest)
      (by rw [hskip]; exact compound_written hk hrest)
    rw [hskip] at hlink
    exact hlink
  | child =>
    have hlink := link_child (' ' :: (Compound.written k ++ rest))
    have hspace : skipBlanks (' ' :: (Compound.written k ++ rest)) = Compound.written k ++ rest :=
      hskip
    rw [hspace] at hlink
    exact hlink

/-- **Compounds with their links are read back.**  Each is written behind the sign of its
    combinator, and what is written next starts with a space again. -/
theorem laterParts_written {ps : List Part}
    (hps : ∀ p ∈ ps, p.combinator ≠ none ∧ Compound.WellFormed p.compound)
    (hrest : EndsComplex rest) : laterParts (ps.flatMap Part.written ++ rest) = .ok (ps, rest) := by
  induction ps with
  | nil => exact hrest.laterParts_eq
  | cons p ps ih =>
    obtain ⟨⟨hop, hk⟩, hlater⟩ := List.forall_mem_cons.1 hps
    obtain ⟨combinator, k⟩ := p
    obtain ⟨op, rfl⟩ := Option.ne_none_iff_exists'.1 hop
    have hends := endsCompound_written ps hrest
    have hsplit : (⟨some op, k⟩ :: ps : List Part).flatMap Part.written ++ rest =
        op.written ++ (Compound.written k ++ (ps.flatMap Part.written ++ rest)) := by
      rw [List.flatMap_cons, Part.written, Option.getD_some, List.append_assoc, List.append_assoc]
    rw [hsplit, laterParts_of_some (link_written op hk hends), compound_written hk hends, ok_bind,
      ih hlater]
    rfl

/-- **An alternative is read back.** -/
theorem complex_written {x : Complex} (hx : Complex.WellFormed x) (hrest : EndsComplex rest) :
    complex (Complex.written x ++ rest) = .ok (x, rest) := by
  cases x with
  | nil => exact hx.elim
  | cons p ps =>
    obtain ⟨combinator, k⟩ := p
    obtain ⟨rfl, hk, hps⟩ := hx
    rw [Complex.written, List.append_assoc, complex_eq, skipBlanks_compound hk,
      compound_written hk (endsCompound_written ps hrest), ok_bind, laterParts_written hps hrest]
    rfl

/-! ## Selectors

  Alternatives are separated by a comma and a space. -/

/-- What is done with the first alternative. -/
theorem alternatives_eq (s : List Char) :
    alternatives s = complex s >>= fun r =>
      match r.2 with
      | [] => .ok [r.1]
      | c :: t =>
        if c = ',' then (alternatives t).map (r.1 :: ·) else .error (.unexpected c t) := by
  rw [alternatives.eq_def]
  split
  · rename_i e he
    rw [he]; rfl
  · rename_i x hx
    rw [hx]; rfl
  · rename_i x c t hx
    rw [hx]; rfl

/-- A space before an alternative changes nothing. -/
theorem alternatives_space (s : List Char) : alternatives (' ' :: s) = alternatives s := by
  rw [alternatives_eq, alternatives_eq s]
  rfl

/-- **Alternatives are read back.** -/
theorem alternatives_written {s : Selector} (h : s.WellFormed) : alternatives s.written = .ok s := by
  obtain ⟨hne, hs⟩ := h
  obtain ⟨x, later, rfl⟩ := List.exists_cons_of_ne_nil hne
  clear hne
  induction later generalizing x with
  | nil =>
    exact alternatives_eq_singleton_iff.2 (complex_written (hs x List.mem_cons_self) EndsComplex.nil)
  | cons y later ih =>
    obtain ⟨hx, hlater⟩ := List.forall_mem_cons.1 hs
    have hsplit : Selector.written (x :: y :: later) =
        Complex.written x ++ ',' :: ' ' :: Selector.written (y :: later) := by
      simp [Selector.written]
    -- the alternative ends at the comma, and the space behind the comma is skipped
    rw [hsplit, alternatives_eq, complex_written hx (EndsComplex.comma _), ok_bind]
    dsimp only
    rw [if_pos rfl, alternatives_space, ih y hlater]
    rfl

end Reader

namespace Selector

/-- What is written is not blank. -/
theorem not_isBlankText_print {s : Selector} (h : s.WellFormed) :
    Text.isBlankText s.print = false := by
  have hspace : ∀ d ∈ Reader.compoundStarts, Text.isSpace d = false :=
    List.all_iff_forall_prop.1 (by decide)
  obtain ⟨hne, hs⟩ := h
  obtain ⟨x, later, rfl⟩ := List.exists_cons_of_ne_nil hne
  have hx := hs x List.mem_cons_self
  cases x with
  | nil => exact hx.elim
  | cons p ps =>
    obtain ⟨d, t, hwritten, hd⟩ := Reader.exists_compound_start hx.2.1
    rw [Text.isBlankText, print, String.toList_ofList, written, Complex.written, hwritten,
      List.cons_append, List.cons_append, List.all_cons, hspace d hd, Bool.false_and]

/-- **A selector is read back from its written text.**  The text has a character that is no space,
    so it is not refused at the start, and the rest is the readers' work. -/
theorem parse_print {s : Selector} (h : s.WellFormed) : parse s.print = .ok s := by
  rw [parse, not_isBlankText_print h, if_neg (by decide), mapError_ok_iff, print,
    String.toList_ofList]
  exact Reader.alternatives_written h

/-- **Reading undoes writing**: what is read from any text is well-formed, and all that is
    well-formed is read back from its written text. -/
theorem parse_undoes_print : (∀ (text : String) (s : Selector), parse text = .ok s → s.WellFormed) ∧
    ∀ s : Selector, s.WellFormed → parse s.print = .ok s :=
  ⟨fun _ _ h => wellFormed_of_parse h, fun _ h => parse_print h⟩

/-- A class with a space in it, an identifier that starts like a number, a quoted text with a quote
    and a backslash, and both ends of the numbers. -/
def escapedItems : Selector :=
  [[⟨none, [.tag "li", .className "a b", .id "1st"]⟩,
    ⟨some .child, [.attribute ⟨"x", some (.startsWith, "\"q\\"), true⟩, .pseudo .empty]⟩],
   [⟨none, [.universal, .pseudo (.nthChild ⟨-2147483648, 2147483647⟩)]⟩,
    ⟨some .descendant, [.attribute ⟨"y", none, false⟩, .pseudo (.nthLastChild ⟨0, -7⟩)]⟩]]

/-- The same selector in other letters, with other quotes and blanks than its written form. -/
def escapedText : String :=
  "LI.a\\ b#1st>[ X ^= '\"q\\\\' I ]:EMPTY , " ++
    "*:nth-child(-2147483648N + 2147483647)  [y]:nth-last-child(-7)"

/-- A text in other letters and quotes is read as the same selector as the text that is written for
    it. -/
theorem parse_print_escapedItems :
    parse escapedText = .ok escapedItems ∧ escapedItems.WellFormed ∧
      parse escapedItems.print = .ok escapedItems := by
  have hparse : parse escapedText = .ok escapedItems := by decide +kernel
  have hwell := parse_undoes_print.1 escapedText escapedItems hparse
  exact ⟨hparse, hwell, parse_undoes_print.2 escapedItems hwell⟩

end Selector

end Pinpoint
