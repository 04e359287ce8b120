/-
  Reading a text that goes on after a space or another stop.

  1. **What a reader has read, it reads again when a stop and more text follow**, and leaves the
     added text after its own rest.  A stop is no name character, starts no condition, and is no
     sign inside brackets (`Stops`), so no reader takes it for its own; only blanks and the end of
     the text have to be looked at.
  2. An alternative read to its end is read the same way before a space, and the compounds that
     the added text holds follow it (`complex_append`).
  3. What follows is read as an alternative of its own whose first compound is linked to the left
     (`laterParts_space`, `laterParts_child`).
-/
import Pinpoint.Selector.Reader

namespace Pinpoint.Reader

variable {s rest : List Char}

/-- After a reader that has read something, the next one starts from it. -/
theorem ok_bind {α β : Type} (a : α) (f : α → Except Fault β) : (Except.ok a >>= f) = f a := rfl

/-! ## Blanks -/

theorem isBlank_space : Ascii.isBlank ' ' = true := by decide

/-- Where the blanks end inside a text, they end there in every longer one. -/
theorem skipBlanks_append (h : skipBlanks s ≠ []) (u : List Char) :
    skipBlanks (s ++ u) = skipBlanks s ++ u := by
  have hs : (List.dropWhile Ascii.isBlank s).isEmpty = false := by
    rw [List.isEmpty_eq_false_iff]; exact h
  rw [skipBlanks, skipBlanks, List.dropWhile_append, hs]; rfl

/-- Where a text is nothing but blanks, so is the front of every longer one. -/
theorem skipBlanks_append_of_nil (h : skipBlanks s = []) (u : List Char) :
    skipBlanks (s ++ u) = skipBlanks u := by
  rw [skipBlanks] at h
  rw [skipBlanks, skipBlanks, List.dropWhile_append, h]; rfl

/-- A reader that takes a character is given one. -/
theorem Consumes.ne_nil (h : Consumes s rest) : s ≠ [] := by
  obtain ⟨p, hp, rfl⟩ := h
  simp [hp]

/-! ## Stops

  What a stop must not be is collected from the readers: each field is there because one of them
  would go on with such a character. -/

/-- A character that no part of a compound can go on with. -/
structure Stops (z : Char) : Prop where
  not_name : isNameChar z = false
  not_escape : z ≠ '\\'
  not_star : z ≠ '*'
  not_start : isIdentStart z = false
  not_condition : ∀ u, condition? (z :: u) = none
  not_argument : z ≠ '('

/-- A space is a stop: blanks are skipped between compounds, never inside of one. -/
theorem stops_space : Stops ' ' :=
  ⟨by decide, by decide, by decide, by decide, fun u => by simp [condition?], by decide⟩

variable {z : Char}

/-! ## Names

  Each lemma says of one reader that what it has read, it reads again before a stop, and that the
  stop and all behind it are added to what it left.  A reader that closes with a character of its
  own asks for no stop. -/

/-- The character that is expected stands at the front, so what follows is left alone. -/
theorem expect_append {c : Char} (h : expect c s = .ok rest) (u : List Char) :
    expect c (s ++ u) = .ok (rest ++ u) := by
  cases s with
  | nil => cases h
  | cons d t =>
    by_cases hd : d = c
    · simp only [expect, hd, if_true] at h
      cases h
      simp [expect, hd]
    · simp [expect, hd] at h

/-- The step of a name, for a character that does not start an escape. -/
theorem nameChars_cons {c : Char} (hc : c ≠ '\\') (s : List Char) :
    nameChars (c :: s) =
      if isNameChar c then nameChars s >>= fun r => .ok (c :: r.1, r.2) else .ok ([], c :: s) := by
  rw [nameChars.eq_def]
  split
  · simp_all
  · simp_all
  · simp_all
  · rename_i heq
    cases heq
    rfl

/-- A name stops before a character that is none of its own. -/
theorem nameChars_stop {c : Char} (hc : isNameChar c = false) (hb : c ≠ '\\') (s : List Char) :
    nameChars (c :: s) = .ok ([], c :: s) := by
  rw [nameChars_cons hb, hc]; rfl

/-- **The characters of a name, before a stop.**  An escape takes the character behind it, whatever
    it is, so a name that ends inside of one is refused; a name that was read has its escapes
    complete. -/
theorem nameChars_append (hz : Stops z) {w : List Char} (h : nameChars s = .ok (w, rest))
    (u : List Char) : nameChars (s ++ z :: u) = .ok (w, rest ++ z :: u) := by
  fun_induction nameChars s generalizing w rest with
  | case1 => cases h; exact nameChars_stop hz.not_name hz.not_escape u
  | case2 => cases h
  | case3 c s ih =>
    obtain ⟨⟨cs, r⟩, hs, h⟩ := bind_ok_iff.1 h
    cases h
    exact bind_ok_iff.2 ⟨_, ih hs, rfl⟩
  | case4 c s h₁ h₂ hc ih =>
    obtain ⟨⟨cs, r⟩, hs, h⟩ := bind_ok_iff.1 h
    cases h
    -- a `\` is read together with what follows it, so it does not stand here
    have hne : c ≠ '\\' := fun he => by cases s <;> simp_all
    rw [List.cons_append, nameChars_cons hne, if_pos hc]
    exact bind_ok_iff.2 ⟨_, ih hs, rfl⟩
  | case5 c s h₁ h₂ hc =>
    cases h
    have hne : c ≠ '\\' := fun he => by cases s <;> simp_all
    rw [List.cons_append, nameChars_cons hne, if_neg hc]

/-- A name that was read is not empty, and more text does not make it so. -/
theorem name_append (hz : Stops z) {w : String} (h : name s = .ok (w, rest)) (u : List Char) :
    name (s ++ z :: u) = .ok (w, rest ++ z :: u) := by
  obtain ⟨⟨cs, r⟩, hs, h⟩ := bind_ok_iff.1 h
  refine bind_ok_iff.2 ⟨_, nameChars_append hz hs u, ?_⟩
  dsimp only at h ⊢
  split at h
  · cases h
  · rename_i hn
    cases h
    rw [if_neg hn]; rfl

/-- An identifier is refused for its first two characters.  The first is there already; a stop in
    the place of the second is no digit, because digits are name characters. -/
theorem ident_append (hz : Stops z) {w : String} (h : ident s = .ok (w, rest)) (u : List Char) :
    ident (s ++ z :: u) = .ok (w, rest ++ z :: u) := by
  have hne := (ident_consumes h).ne_nil
  obtain ⟨⟨v, r⟩, hs, h⟩ := bind_ok_iff.1 h
  refine bind_ok_iff.2 ⟨_, name_append hz hs u, ?_⟩
  -- the text is not empty, so its first character stays the first
  have hhead : (s ++ z :: u).head? = s.head? := by
    obtain ⟨c, t, rfl⟩ := List.exists_cons_of_ne_nil hne
    rfl
  dsimp only at h ⊢
  rw [hhead]
  split at h
  · cases h
  · rename_i hn
    cases h
    rw [if_neg hn]; rfl

/-! ## Attribute tests -/

/-- The steps of a quoted value: an escape, -/
theorem quoted_escape {q : Char} (hq : '\\' ≠ q) (d : Char) (s : List Char) :
    quoted q ('\\' :: d :: s) = quoted q s >>= fun r => .ok (d :: r.1, r.2) := by
  rw [quoted.eq_def]
  simp only [if_neg hq, if_true]
  rfl

/-- any other character but the quote, -/
theorem quoted_cons {q c : Char} (hq : c ≠ q) (hc : c ≠ '\\') (s : List Char) :
    quoted q (c :: s) = quoted q s >>= fun r => .ok (c :: r.1, r.2) := by
  rw [quoted.eq_def]
  simp only [if_neg hq, if_neg hc]
  rfl

/-- and the quote that closes it. -/
theorem quoted_close (q : Char) (s : List Char) : quoted q (q :: s) = .ok ([], s) := by
  rw [quoted.eq_def]
  simp

/-- A quoted value is closed by its quote, so any text may follow. -/
theorem quoted_append {q : Char} {w : List Char} (h : quoted q s = .ok (w, rest)) (u : List Char) :
    quoted q (s ++ u) = .ok (w, rest ++ u) := by
  fun_induction quoted q s generalizing w rest with
  | case1 => cases h
  | case2 s => cases h; exact quoted_close q (s ++ u)
  | case3 => cases h
  | case4 d s hq ih =>
    obtain ⟨⟨cs, r⟩, hs, h⟩ := bind_ok_iff.1 h
    cases h
    rw [List.cons_append, List.cons_append, quoted_escape hq]
    exact bind_ok_iff.2 ⟨_, ih hs, rfl⟩
  | case5 c s hq hb ih =>
    obtain ⟨⟨cs, r⟩, hs, h⟩ := bind_ok_iff.1 h
    cases h
    rw [List.cons_append, quoted_cons hq hb]
    exact bind_ok_iff.2 ⟨_, ih hs, rfl⟩

/-- A comparison ends with its own equals sign. -/
theorem comparison_append {op : Comparison} (h : comparison s = .ok (op, rest)) (u : List Char) :
    comparison (s ++ u) = .ok (op, rest ++ u) := by
  cases s with
  | nil => cases h
  | cons c t =>
    simp only [List.cons_append, comparison] at h ⊢
    split at h
    · rename_i hc
      cases h
      rw [if_pos hc]
    · rename_i hc
      rw [if_neg hc]
      cases hsign : comparisonSign? c with
      | none => rw [hsign] at h; cases h
      | some op' =>
        rw [hsign] at h
        obtain ⟨r, hr, h⟩ := bind_ok_iff.1 h
        cases h
        exact bind_ok_iff.2 ⟨_, expect_append hr u, rfl⟩

/-- A value is quoted or an identifier; only the second needs a stop behind it. -/
theorem attributeValue_append (hz : Stops z) {v : String} (h : attributeValue s = .ok (v, rest))
    (u : List Char) : attributeValue (s ++ z :: u) = .ok (v, rest ++ z :: u) := by
  cases s with
  | nil => cases h
  | cons c t =>
    simp only [List.cons_append, attributeValue] at h ⊢
    split at h
    · rename_i hc
      rw [if_pos hc]
      obtain ⟨⟨cs, r⟩, hr, h⟩ := bind_ok_iff.1 h
      cases h
      exact bind_ok_iff.2 ⟨_, quoted_append hr _, rfl⟩
    · rename_i hc
      rw [if_neg hc]
      exact ident_append hz h u

/-- Whether there is a letter for case shows at the first character that is left. -/
theorem caseFlag_append (h : (caseFlag s).2 ≠ []) (u : List Char) :
    caseFlag (s ++ u) = ((caseFlag s).1, (caseFlag s).2 ++ u) := by
  cases s with
  | nil => exact absurd rfl h
  | cons c t =>
    simp only [List.cons_append, caseFlag] at h ⊢
    split at h
    · rename_i hc
      rw [if_pos hc, if_pos hc, skipBlanks_append h]
    · rename_i hc
      rw [if_neg hc, if_neg hc]
      split at h
      · rename_i hc'
        rw [if_pos hc', if_pos hc', skipBlanks_append h]
      · rename_i hc'
        rw [if_neg hc', if_neg hc']; rfl

/-- **An attribute test, before a stop.**  Its bracket is closed inside of the text that was read,
    so each of its readers leaves something behind, and this is what the blanks are skipped up
    to. -/
theorem attributeTest_append (hz : Stops z) {t : AttributeTest}
    (h : attributeTest s = .ok (t, rest)) (u : List Char) :
    attributeTest (s ++ z :: u) = .ok (t, rest ++ z :: u) := by
  obtain ⟨⟨w, r⟩, hw, h⟩ := bind_ok_iff.1 h
  rw [attributeTest, skipBlanks_append (ident_consumes hw).ne_nil]
  refine bind_ok_iff.2 ⟨_, ident_append hz hw u, ?_⟩
  dsimp only at h ⊢
  split at h
  · rename_i r' heq
    cases h
    rw [skipBlanks_append (by rw [heq]; simp), heq]; rfl
  · rename_i hclose
    -- a comparison, a value and the closing bracket, each of which leaves something behind
    obtain ⟨⟨op, r₁⟩, h₁, h⟩ := bind_ok_iff.1 h
    obtain ⟨⟨v, r₂⟩, h₂, h⟩ := bind_ok_iff.1 h
    obtain ⟨r₃, h₃, h⟩ := bind_ok_iff.1 h
    cases h
    have hne := (comparison_consumes h₁).ne_nil
    have hne₂ := (attributeValue_consumes h₂).ne_nil
    have hflag := (expect_consumes h₃).ne_nil
    have hne₃ : skipBlanks r₂ ≠ [] := by
      intro hnil
      rw [hnil] at hflag
      exact hflag rfl
    rw [skipBlanks_append hne]
    -- the test is not closed here in the longer text either
    split
    · rename_i r' heq
      obtain ⟨c, k, hk⟩ := List.exists_cons_of_ne_nil hne
      rw [hk, List.cons_append, List.cons.injEq] at heq
      exact absurd (heq.1 ▸ hk) (hclose k)
    · refine bind_ok_iff.2 ⟨_, comparison_append h₁ _, ?_⟩
      dsimp only
      rw [skipBlanks_append hne₂]
      refine bind_ok_iff.2 ⟨_, attributeValue_append hz h₂ u, ?_⟩
      dsimp only
      rw [skipBlanks_append hne₃, caseFlag_append hflag]
      exact bind_ok_iff.2 ⟨_, expect_append h₃ _, rfl⟩

/-! ## Pseudo-classes -/

/-- Where a predicate stops inside a text, it stops there in every longer one. -/
theorem takeWhile_append_of_dropWhile {p : Char → Bool} {t : List Char} (h : t.dropWhile p ≠ [])
    (u : List Char) :
    (t ++ u).takeWhile p = t.takeWhile p ∧ (t ++ u).dropWhile p = t.dropWhile p ++ u := by
  have hlen : (t.takeWhile p).length ≠ t.length := by
    intro heq
    have hsplit := congrArg List.length (List.takeWhile_append_dropWhile (p := p) (l := t))
    rw [List.length_append, heq] at hsplit
    exact h (List.length_eq_zero_iff.1 (by omega))
  have hdrop : (t.dropWhile p).isEmpty = false := List.isEmpty_eq_false_iff.2 h
  refine ⟨?_, ?_⟩
  · rw [List.takeWhile_append, if_neg hlen]
  · rw [List.dropWhile_append, hdrop]; rfl

/-- An argument is closed by its bracket.  Where there is none, the text must not go on with one. -/
theorem argument_append (hz : Stops z) {arg : Option String} (h : argument s = .ok (arg, rest))
    (u : List Char) : argument (s ++ z :: u) = .ok (arg, rest ++ z :: u) := by
  fun_cases argument s with
  | case1 t =>
    obtain ⟨r, hr, h⟩ := bind_ok_iff.1 h
    cases h
    -- the argument is closed inside `t`, so nothing added behind is taken for a part of it
    obtain ⟨htake, hdrop⟩ := takeWhile_append_of_dropWhile (expect_consumes hr).ne_nil (z :: u)
    rw [List.cons_append, argument, htake, hdrop]
    exact bind_ok_iff.2 ⟨_, expect_append hr _, rfl⟩
  | case2 t ht =>
    simp only [argument] at h
    cases h
    cases s with
    | nil =>
      rw [List.nil_append, argument]
      rintro t' heq
      exact hz.not_argument (List.cons.inj heq).1
    | cons c t =>
      rw [List.cons_append, argument]
      rintro t' heq
      rw [List.cons.injEq] at heq
      exact ht t (by rw [heq.1])

/-- What a word and its argument mean does not depend on what follows. -/
theorem pseudoClass_append (hz : Stops z) {p : PseudoClass} (h : pseudoClass s = .ok (p, rest))
    (u : List Char) : pseudoClass (s ++ z :: u) = .ok (p, rest ++ z :: u) := by
  obtain ⟨⟨w, r⟩, hw, h⟩ := bind_ok_iff.1 h
  obtain ⟨⟨arg, r₁⟩, h₁, h⟩ := bind_ok_iff.1 h
  obtain ⟨q, hq, h⟩ := bind_ok_iff.1 h
  cases h
  refine bind_ok_iff.2 ⟨_, ident_append hz hw u, ?_⟩
  refine bind_ok_iff.2 ⟨_, argument_append hz h₁ u, ?_⟩
  exact bind_ok_iff.2 ⟨_, hq, rfl⟩

/-! ## Conditions and compounds -/

/-- **A condition, before a stop**: by its first character it is an id, a class, an attribute test
    or a pseudo-class, and each of them was seen to. -/
theorem condition?_append (hz : Stops z) {c : Component} (h : condition? s = some (.ok (c, rest)))
    (u : List Char) : condition? (s ++ z :: u) = some (.ok (c, rest ++ z :: u)) := by
  fun_cases condition? s with
  | case1 t =>
    obtain ⟨⟨w, r⟩, hr, h⟩ := map_ok_iff.1 (Option.some.inj h)
    cases h
    exact congrArg some (map_ok_iff.2 ⟨_, name_append hz hr u, rfl⟩)
  | case2 t =>
    obtain ⟨⟨w, r⟩, hr, h⟩ := map_ok_iff.1 (Option.some.inj h)
    cases h
    exact congrArg some (map_ok_iff.2 ⟨_, ident_append hz hr u, rfl⟩)
  | case3 t =>
    obtain ⟨⟨w, r⟩, hr, h⟩ := map_ok_iff.1 (Option.some.inj h)
    cases h
    exact congrArg some (map_ok_iff.2 ⟨_, attributeTest_append hz hr u, rfl⟩)
  | case4 t =>
    obtain ⟨⟨w, r⟩, hr, h⟩ := map_ok_iff.1 (Option.some.inj h)
    cases h
    exact congrArg some (map_ok_iff.2 ⟨_, pseudoClass_append hz hr u, rfl⟩)
  | case5 => simp_all [condition?]

/-- Where no condition starts, none starts in the longer text; at the end of the text it is the stop
    that starts none. -/
theorem condition?_append_eq_none (hz : Stops z) (h : condition? s = none) (u : List Char) :
    condition? (s ++ z :: u) = none := by
  cases s with
  | nil => exact hz.not_condition u
  | cons c t =>
    rw [List.cons_append]
    unfold condition? at h ⊢
    split at h <;> simp_all

/-- The steps of the conditions: none starts here, -/
theorem conditions_of_none (h : condition? s = none) : conditions s = .ok ([], s) := by
  rw [conditions.eq_def]
  split <;> simp_all

/-- or one is read, and those behind it. -/
theorem conditions_of_some {c : Component} (h : condition? s = some (.ok (c, rest))) :
    conditions s = conditions rest >>= fun r => .ok (c :: r.1, r.2) := by
  rw [conditions.eq_def]
  split
  · simp_all
  · simp_all
  · rename_i c' rest' heq
    rw [h] at heq
    cases heq
    rfl

/-- All conditions that follow one another, before a stop. -/
theorem conditions_append (hz : Stops z) {cs : List Component} (h : conditions s = .ok (cs, rest))
    (u : List Char) : conditions (s ++ z :: u) = .ok (cs, rest ++ z :: u) := by
  fun_induction conditions s generalizing cs rest with
  | case1 s hn =>
    cases h
    exact conditions_of_none (condition?_append_eq_none hz hn u)
  | case2 => cases h
  | case3 s c r hc ih =>
    obtain ⟨⟨cs', r'⟩, hr, h⟩ := bind_ok_iff.1 h
    cases h
    rw [conditions_of_some (condition?_append hz hc u)]
    exact bind_ok_iff.2 ⟨_, ih hr, rfl⟩

/-- What leads a compound, before a stop; at the end of the text, the stop is no star and starts no
    tag. -/
theorem leading_append (hz : Stops z) {cs : List Component} (h : leading s = .ok (cs, rest))
    (u : List Char) : leading (s ++ z :: u) = .ok (cs, rest ++ z :: u) := by
  cases s with
  | nil =>
    cases h
    simp [leading, hz.not_star, hz.not_start]
  | cons c t =>
    simp only [List.cons_append, leading] at h ⊢
    split at h
    · rename_i hc
      cases h
      rw [if_pos hc]
    · rename_i hc
      rw [if_neg hc]
      split at h
      · rename_i hi
        obtain ⟨⟨w, r⟩, hr, h⟩ := map_ok_iff.1 h
        cases h
        rw [if_pos hi]
        exact map_ok_iff.2 ⟨_, ident_append hz hr u, rfl⟩
      · rename_i hi
        cases h
        rw [if_neg hi]; rfl

/-- **A compound is read the same way before a stop.** -/
theorem compound_append (hz : Stops z) {c : Compound} (h : compound s = .ok (c, rest))
    (u : List Char) : compound (s ++ z :: u) = .ok (c, rest ++ z :: u) := by
  obtain ⟨⟨front, r⟩, h₁, h⟩ := bind_ok_iff.1 h
  obtain ⟨⟨cs, r'⟩, h₂, h⟩ := bind_ok_iff.1 h
  refine bind_ok_iff.2 ⟨_, leading_append hz h₁ u, ?_⟩
  refine bind_ok_iff.2 ⟨_, conditions_append hz h₂ u, ?_⟩
  dsimp only at h ⊢
  split at h
  · cases h
  · rename_i hn
    cases h
    rw [if_neg hn]; rfl

/-! ## Alternatives

  Between compounds there are links, and a link may be a space.  So what is read here depends on
  what follows: behind a last space there is nothing to link, while before more text the same space
  links it. -/

/-- **A link is read in the same way in a longer text** when something is left behind it.  It is
    looked for at two places: at the first character that is no blank, and at the first of all,
    which tells a space from no link. -/
theorem link_append {op : Combinator} (h : link s = .ok (some (op, rest))) (hne : rest ≠ [])
    (u : List Char) : link (s ++ u) = .ok (some (op, rest ++ u)) := by
  unfold link at h
  split at h
  · cases h
  · rename_i c t heq
    -- a character that is no blank is left, so both places are the same ones in the longer text
    have hs : skipBlanks s ≠ [] := by rw [heq]; simp
    have hhead : (s ++ u).head? = s.head? := by
      cases s with
      | nil => exact absurd rfl hs
      | cons d s => rfl
    rw [link, skipBlanks_append hs, heq, hhead]
    dsimp only [List.cons_append]
    split at h
    · cases h
    · rename_i hcomma
      rw [if_neg hcomma]
      split at h
      · rename_i hgt
        cases h
        rw [if_pos hgt, skipBlanks_append hne]
      · rename_i hgt
        rw [if_neg hgt]
        split at h
        · rename_i hb
          cases h
          rw [if_pos hb]; rfl
        · cases h

/-- The steps of the parts: no link, and only blanks are taken, -/
theorem laterParts_of_none (h : link s = .ok none) : laterParts s = .ok ([], skipBlanks s) := by
  rw [laterParts.eq_def]
  split <;> simp_all

/-- or a link, a compound, and the parts behind it. -/
theorem laterParts_of_some {op : Combinator} {start : List Char}
    (h : link s = .ok (some (op, start))) :
    laterParts s = compound start >>= fun r => laterParts r.2 >>= fun q =>
      .ok (⟨some op, r.1⟩ :: q.1, q.2) := by
  rw [laterParts.eq_def]
  split
  · simp_all
  · simp_all
  · rename_i op' start' heq
    rw [h] at heq
    cases heq
    split
    · rename_i e he
      rw [he]; rfl
    · rename_i c r hc
      rw [hc]; rfl

/-- Blanks before a space change nothing. -/
theorem laterParts_of_blanks (h : skipBlanks s = []) (u : List Char) :
    laterParts (s ++ ' ' :: u) = laterParts (' ' :: u) := by
  -- both the place of the link and its first blank are the same
  have hskip : skipBlanks (s ++ ' ' :: u) = skipBlanks (' ' :: u) := skipBlanks_append_of_nil h _
  have hlink : link (s ++ ' ' :: u) = link (' ' :: u) := by
    cases s with
    | nil => rfl
    | cons c t =>
      have hc : Ascii.isBlank c = true := by
        cases hb : Ascii.isBlank c with
        | true => rfl
        | false => simp [skipBlanks, hb] at h
      rw [link, hskip, link]
      simp [hc, isBlank_space]
  cases hl : link (' ' :: u) with
  | error e =>
    rw [laterParts.eq_def, laterParts.eq_def (' ' :: u)]
    split <;> split <;> simp_all
  | ok o =>
    cases o with
    | none => rw [laterParts_of_none hl, laterParts_of_none (hlink.trans hl), hskip]
    | some p => rw [laterParts_of_some hl, laterParts_of_some (hlink.trans hl)]

/-- There is no link at the end of the text, and none before a comma. -/
theorem skipBlanks_of_link_none (h : link s = .ok none) :
    skipBlanks s = [] ∨ ∃ t, skipBlanks s = ',' :: t := by
  unfold link at h
  split at h
  · rename_i heq
    exact Or.inl heq
  · rename_i c t heq
    split at h
    · rename_i hc
      exact Or.inr ⟨t, hc ▸ heq⟩
    · split at h
      · cases h
      · split at h <;> cases h

/-- Compounds read to the end of a text are followed by those of the text added after a space. -/
theorem laterParts_append {ps : List Part} (h : laterParts s = .ok (ps, [])) (u : List Char) :
    laterParts (s ++ ' ' :: u) = (laterParts (' ' :: u)).map fun r => (ps ++ r.1, r.2) := by
  generalize hr : ([] : List Char) = r at h
  fun_induction laterParts s generalizing ps r with
  | case1 => cases h
  | case2 s hl =>
    cases h
    -- reading stopped at the end of the text, not at a comma, so the added text goes on from there
    rcases skipBlanks_of_link_none hl with hb | ⟨t, hb⟩
    · rw [laterParts_of_blanks hb]
      cases laterParts (' ' :: u) <;> rfl
    · rw [hb] at hr; cases hr
  | case3 => cases h
  | case4 s op start hl c rest hc ih =>
    obtain ⟨⟨ps', r'⟩, hps, h⟩ := bind_ok_iff.1 h
    cases h
    rw [laterParts_of_some (link_append hl (compound_consumes hc).ne_nil _),
      compound_append stops_space hc, ok_bind, ih _ hr hps]
    cases laterParts (' ' :: u) <;> rfl

/-- An alternative is a compound and linked parts. -/
theorem complex_eq (s : List Char) :
    complex s = compound (skipBlanks s) >>= fun r => laterParts r.2 >>= fun q =>
      .ok (⟨none, r.1⟩ :: q.1, q.2) := rfl

/-- The first part of an alternative has no link. -/
theorem complex_eq_cons {x : Complex} (h : complex s = .ok (x, rest)) :
    ∃ c ps, x = ⟨none, c⟩ :: ps := by
  rw [complex_eq] at h
  obtain ⟨⟨c, r⟩, -, h⟩ := bind_ok_iff.1 h
  obtain ⟨⟨ps, r'⟩, -, h⟩ := bind_ok_iff.1 h
  cases h
  exact ⟨c, ps, rfl⟩

/-- **An alternative read to its end is read the same way before a space**, and the compounds of
    the added text follow. -/
theorem complex_append {x : Complex} (h : complex s = .ok (x, [])) (u : List Char) :
    complex (s ++ ' ' :: u) = (laterParts (' ' :: u)).map fun r => (x ++ r.1, r.2) := by
  obtain ⟨⟨c, r⟩, hc, h⟩ := bind_ok_iff.1 h
  obtain ⟨⟨ps, r'⟩, hps, h⟩ := bind_ok_iff.1 h
  cases h
  rw [complex_eq, skipBlanks_append (compound_consumes hc).ne_nil, compound_append stops_space hc]
  rw [ok_bind, laterParts_append hps]
  cases laterParts (' ' :: u) <;> rfl

/-! ## Linking an alternative to the left

  A text added after a space is an alternative of its own, but for its first part, which is then
  linked to the compound before the space. -/

/-- A character that is no star and starts no identifier leads nothing. -/
theorem leading_of_ne {c : Char} (hstar : c ≠ '*') (hstart : isIdentStart c = false)
    (t : List Char) : leading (c :: t) = .ok ([], c :: t) := by
  simp [leading, hstar, hstart]

/-- No compound starts with a sign. -/
theorem compound_error {c : Char} {t : List Char} (hstar : c ≠ '*')
    (hstart : isIdentStart c = false) (hcond : condition? (c :: t) = none) :
    compound (c :: t) = .error (.unexpected c t) := by
  have hlead := leading_of_ne hstar hstart t
  have heq : compound (c :: t) = conditions (c :: t) >>= fun r =>
      if r.1.isEmpty then .error (faultAt r.2) else .ok (r.1, r.2) := by
    rw [compound, hlead]; rfl
  rw [heq, conditions_of_none hcond]; rfl

/-- A compound that starts after blanks is a descendant, since it starts with no sign. -/
theorem link_space {c : Compound} (h : compound (skipBlanks s) = .ok (c, rest)) :
    link (' ' :: s) = .ok (some (.descendant, skipBlanks s)) := by
  have hskip : skipBlanks (' ' :: s) = skipBlanks s := rfl
  -- a comma or a `>` would have been refused as the start of a compound
  obtain ⟨d, t, hd⟩ := List.exists_cons_of_ne_nil (compound_consumes h).ne_nil
  have hcomma : d ≠ ',' := by
    rintro rfl
    rw [hd, compound_error (by decide) (by decide) (by simp [condition?])] at h
    cases h
  have hgt : d ≠ '>' := by
    rintro rfl
    rw [hd, compound_error (by decide) (by decide) (by simp [condition?])] at h
    cases h
  rw [link, hskip, hd]
  simp [hcomma, hgt, isBlank_space]

/-- A `>` behind a space makes a child of what follows. -/
theorem link_child (s : List Char) : link (' ' :: '>' :: s) = .ok (some (.child, skipBlanks s)) :=
  rfl

end Pinpoint.Reader

namespace Pinpoint

/-- The alternative, linked to something on its left. -/
def Complex.relink (op : Combinator) : Complex → Complex
  | [] => []
  | p :: ps => ⟨some op, p.compound⟩ :: ps

namespace Reader

variable {s rest : List Char}

/-- An alternative after a space goes on below what is before it. -/
theorem laterParts_space {x : Complex} (h : complex s = .ok (x, rest)) :
    laterParts (' ' :: s) = .ok (x.relink .descendant, rest) := by
  rw [complex_eq] at h
  obtain ⟨⟨c, r⟩, hc, h⟩ := bind_ok_iff.1 h
  obtain ⟨⟨ps, r'⟩, hps, h⟩ := bind_ok_iff.1 h
  cases h
  rw [laterParts_of_some (link_space hc), hc, ok_bind, hps]; rfl

/-- An alternative after a `>` goes on directly below. -/
theorem laterParts_child {x : Complex} (h : complex s = .ok (x, rest)) :
    laterParts (' ' :: '>' :: ' ' :: s) = .ok (x.relink .child, rest) := by
  rw [complex_eq] at h
  obtain ⟨⟨c, r⟩, hc, h⟩ := bind_ok_iff.1 h
  obtain ⟨⟨ps, r'⟩, hps, h⟩ := bind_ok_iff.1 h
  cases h
  have hskip : skipBlanks (' ' :: s) = skipBlanks s := rfl
  rw [laterParts_of_some (link_child _), hskip, hc, ok_bind, hps]; rfl

/-! ## Selectors of one alternative -/

/-- There is no selector without an alternative. -/
theorem alternatives_ne_nil (s : List Char) : alternatives s ≠ .ok [] := by
  rw [alternatives.eq_def]
  intro h
  split at h
  · cases h
  · cases h
  · split at h
    · obtain ⟨x, -, hx⟩ := map_ok_iff.1 h
      cases hx
    · cases h

/-- **A selector of one alternative** is an alternative that is read to the end of the text. -/
theorem alternatives_eq_singleton_iff {x : Complex} :
    alternatives s = .ok [x] ↔ complex s = .ok (x, []) := by
  rw [alternatives.eq_def]
  constructor
  · intro h
    split at h
    · cases h
    · rename_i y hy
      cases h
      exact hy
    · split at h
      · obtain ⟨xs, hxs, hx⟩ := map_ok_iff.1 h
        cases hx
        exact absurd hxs (alternatives_ne_nil _)
      · cases h
  · intro h
    split
    · simp_all
    · simp_all
    · simp_all

end Reader

/-- Where a mistake stands does not touch what is read. -/
theorem mapError_ok_iff {α ε ε' : Type} {x : Except ε α} {f : ε → ε'} {a : α} :
    x.mapError f = .ok a ↔ x = .ok a := by
  cases x with
  | error e => exact ⟨nofun, nofun⟩
  | ok b => exact ⟨fun h => by cases h; rfl, fun h => by cases h; rfl⟩

/-- So a text that is not blank reads as one alternative exactly when the reader of alternatives
    takes all of it. -/
theorem Selector.parse_eq_singleton_iff {s : String} {x : Complex} :
    Selector.parse s = .ok [x] ↔
      Text.isBlankText s = false ∧ Reader.complex s.toList = .ok (x, []) := by
  unfold Selector.parse
  cases hb : Text.isBlankText s with
  | true => simp
  | false =>
    rw [if_neg (by simp), mapError_ok_iff, ← Reader.alternatives_eq_singleton_iff]
    exact ⟨fun h => ⟨rfl, h⟩, fun h => h.2⟩

end Pinpoint
