/-
  Reading what is written for a description in plain words.

  Not every such text can be read: an id may be empty, a class may start with a digit, the number of
  a place may not fit.  So nothing here says that a text is read, only what it means when it is.
  Where one token is refused, the whole text is.

  1. Names and values of plain characters.
  2. **Tokens**: each is read as its condition and ends where it was written to end (`Means`).
  3. Rows of tokens, and the place at their end.
  4. **Compounds**: the text of a description is read as its compound (`compound_text`).
  5. **Chains**: joints end the text before them and start none, so a chain is read part by part
     (`parse_render_of_isWorded`).
-/
import Pinpoint.Proofs.Search.Rendering
import Pinpoint.Proofs.Search.Structural
import Pinpoint.Proofs.Selector.RoundTrip
import Pinpoint.Search.Description

namespace Pinpoint

/-! ## Plain names and values

  A token is written without escapes.  Names of plain characters are read as they stand all the
  same, and so are values without quotes and backslashes. -/

namespace Reader

variable {rest r : List Char} {v w : String}

/-- Where a plain name is read at all, it is read as it stands, up to what ends it. -/
theorem name_plain (hv : isPlainName v = true) (hrest : EndsCondition rest)
    (h : name (v.toList ++ rest) = .ok (w, r)) : w = v ∧ r = rest := by
  have hchars : nameChars (v.toList ++ rest) = .ok (v.toList, rest) :=
    nameChars_of_all (List.all_eq_true.1 hv) hrest.nameChars_eq
  obtain ⟨⟨cs, r'⟩, hcs, h⟩ := bind_ok_iff.1 h
  rw [hchars] at hcs
  cases hcs
  dsimp only at h
  split at h
  · cases h
  · cases h
    exact ⟨String.ofList_toList, rfl⟩

/-- The same for an identifier. -/
theorem ident_plain (hv : isPlainName v = true) (hrest : EndsCondition rest)
    (h : ident (v.toList ++ rest) = .ok (w, r)) : w = v ∧ r = rest := by
  obtain ⟨⟨w', r'⟩, hname, h⟩ := bind_ok_iff.1 h
  obtain ⟨rfl, rfl⟩ := name_plain hv hrest hname
  dsimp only at h
  split at h
  · cases h
  · cases h
    exact ⟨rfl, rfl⟩

/-- The first character of a plain name is one of a name. -/
theorem isNameChar_of_plain (hv : isPlainName v = true) {c : Char} {t : List Char}
    (hcs : v.toList = c :: t) : isNameChar c = true :=
  List.all_eq_true.1 hv c (by rw [hcs]; exact List.mem_cons_self)

/-- No blank is skipped before a plain name, nor before what ends it when it is empty. -/
theorem skipBlanks_plain (hv : isPlainName v = true) {s : List Char} (hs : skipBlanks s = s) :
    skipBlanks (v.toList ++ s) = v.toList ++ s := by
  cases hcs : v.toList with
  | nil => exact hs
  | cons c t =>
    have hjoint := isJoint_of_isNameChar (isNameChar_of_plain hv hcs)
    simp only [isJoint, Bool.or_eq_false_iff] at hjoint
    rw [List.cons_append, skipBlanks, List.dropWhile_cons, hjoint.2]
    rfl

/-- A plain value is quoted as it stands. -/
theorem attributeValue_plain (hv : isPlainValue v = true) (rest : List Char) :
    attributeValue ('"' :: (v.toList ++ '"' :: rest)) = .ok (v, rest) := by
  have hchars : ∀ c ∈ v.toList, writtenQuotedChar c = [c] := by
    intro c hc
    have hplain := List.all_eq_true.1 hv c hc
    simp only [Bool.and_eq_true, decide_eq_true_eq] at hplain
    simp [writtenQuotedChar, hplain.1, hplain.2]
  have hquoted : writtenQuoted v = '"' :: (v.toList ++ ['"']) := by
    rw [writtenQuoted, List.flatMap_congr hchars, List.flatMap_singleton']
  have hread := attributeValue_written v rest
  rw [hquoted] at hread
  simpa only [List.cons_append, List.append_assoc, List.nil_append] using hread

/-- A test for a plain value, where it is read, is the test that was written.  Only the name of the
    attribute is changed, to lower case. -/
theorem attributeTest_plain {a : String × String} (hname : isPlainName a.1 = true)
    (hvalue : isPlainValue a.2 = true) {t : AttributeTest}
    (h : attributeTest (a.1.toList ++ '=' :: '"' :: (a.2.toList ++ '"' :: ']' :: rest)) =
      .ok (t, r)) :
    t = ⟨Ascii.lower a.1, some (.equals, a.2), false⟩ ∧ r = rest := by
  generalize hsign : '=' :: '"' :: (a.2.toList ++ '"' :: ']' :: rest) = afterName at h
  have hends : EndsCondition afterName := by
    subst hsign
    exact ⟨by decide, by decide, by decide⟩
  rw [attributeTest, skipBlanks_plain hname (by subst hsign; rfl)] at h
  obtain ⟨⟨w, r'⟩, hident, htest⟩ := bind_ok_iff.1 h
  obtain ⟨hw, hr'⟩ := ident_plain hname hends hident
  subst hw hr' hsign
  have hskip : ∀ s, skipBlanks ('=' :: s) = '=' :: s := fun _ => rfl
  dsimp only at htest
  rw [hskip] at htest
  -- behind the name stands a comparison, and no closing bracket
  split at htest
  · rename_i heq
    cases heq
  · obtain ⟨⟨op, r₁⟩, hop, htest⟩ := bind_ok_iff.1 htest
    cases hop
    dsimp only at htest
    obtain ⟨⟨value, r₂⟩, hval, htest⟩ := bind_ok_iff.1 htest
    have hquote : ∀ s, skipBlanks ('"' :: s) = '"' :: s := fun _ => rfl
    rw [hquote, attributeValue_plain hvalue] at hval
    cases hval
    cases htest
    exact ⟨rfl, rfl⟩

/-! ## Tokens

  Three kinds of tokens are conditions: ids, classes and attributes.  The tag comes before them and
  the place after them. -/

/-- What a text means where a condition is read: it starts as a condition does, and if it is not
    refused then it is this condition and ends where the text does.

    The reader may refuse it, and this says nothing about when.  A token that means a condition
    cannot be read as another one, whatever stands behind it. -/
structure Means (w : String) (c : Component) : Prop where
  start : ∃ d t, w.toList = d :: t ∧ d ∈ conditionStarts
  read : ∀ rest k r, EndsCondition rest → condition? (w.toList ++ rest) = some (.ok (k, r)) →
    k = c ∧ r = rest

/-- The characters of an id token. -/
theorem toList_idToken (v : String) : ("#" ++ v).toList = '#' :: v.toList := by
  rw [String.toList_append]
  rfl

/-- The characters of a class token. -/
theorem toList_classToken (v : String) : ("." ++ v).toList = '.' :: v.toList := by
  rw [String.toList_append]
  rfl

/-- An id token means the id. -/
theorem means_id (hv : isPlainName v = true) : Means ("#" ++ v) (.id v) := by
  have hchars := toList_idToken v
  refine ⟨⟨_, _, hchars, by decide⟩, fun rest k r hrest h => ?_⟩
  rw [hchars, List.cons_append, condition?, Option.some_inj] at h
  obtain ⟨⟨w, r'⟩, hname, heq⟩ := map_ok_iff.1 h
  obtain ⟨rfl, rfl⟩ := name_plain hv hrest hname
  cases heq
  exact ⟨rfl, rfl⟩

/-- A class token means the class. -/
theorem means_className (hv : isPlainName v = true) : Means ("." ++ v) (.className v) := by
  have hchars := toList_classToken v
  refine ⟨⟨_, _, hchars, by decide⟩, fun rest k r hrest h => ?_⟩
  rw [hchars, List.cons_append, condition?, Option.some_inj] at h
  obtain ⟨⟨w, r'⟩, hident, heq⟩ := map_ok_iff.1 h
  obtain ⟨rfl, rfl⟩ := ident_plain hv hrest hident
  cases heq
  exact ⟨rfl, rfl⟩

/-- An attribute token means that the attribute has this value. -/
theorem means_attribute {a : String × String} (hname : isPlainName a.1 = true)
    (hvalue : isPlainValue a.2 = true) :
    Means (attributeToken a) (.attribute ⟨Ascii.lower a.1, some (.equals, a.2), false⟩) := by
  have hchars : ∀ rest, (attributeToken a).toList ++ rest =
      '[' :: (a.1.toList ++ '=' :: '"' :: (a.2.toList ++ '"' :: ']' :: rest)) := by
    intro rest
    simp [attributeToken]
  refine ⟨⟨_, _, by simpa using hchars [], by decide⟩, fun rest k r hrest h => ?_⟩
  rw [hchars, condition?, Option.some_inj] at h
  obtain ⟨⟨t, r'⟩, htest, heq⟩ := map_ok_iff.1 h
  obtain ⟨rfl, rfl⟩ := attributeTest_plain hname hvalue htest
  cases heq
  exact ⟨rfl, rfl⟩

/-! ## Places

  The place of an element is written as a pseudo-class.  It is the one token that may be refused
  because of a number. -/

/-- The number of a place, where it is read at all.  A number from `2 ^ 31` on is refused, so one
    that is read fits. -/
theorem pseudoClass_number {n : Nat} {p : PseudoClass}
    (h : pseudoClass ("nth-child".toList ++ '(' :: (Nat.toDigits 10 n ++ ')' :: rest)) =
      .ok (p, r)) :
    n < 2 ^ 31 ∧ p = .nthChild ⟨0, Int32.ofNat n⟩ ∧ r = rest := by
  -- the number was read, so it fits
  have hn : n < 2 ^ 31 := by
    have hparen : ')' ∉ Nat.toDigits 10 n := fun hc =>
      absurd (Ascii.mem_digits_of_mem_toDigits hc) (by decide)
    have hstop : nameChars ('(' :: (Nat.toDigits 10 n ++ ')' :: rest)) = .ok ([], _) :=
      nameChars_stop (by decide) (by decide) _
    have hmem : "nth-child" ∈ pseudoWords := by decide
    obtain ⟨hident, hlower⟩ := ident_of_word hmem hstop
    have hword : ∀ arg, pseudoClassOf "nth-child" (some arg) =
        (nthArgument arg).map .nthChild := fun _ => rfl
    rw [pseudoClass, hident, ok_bind] at h
    dsimp only at h
    rw [argument_closed hparen, ok_bind] at h
    dsimp only at h
    rw [hlower, hword] at h
    obtain ⟨p', hp, -⟩ := bind_ok_iff.1 h
    obtain ⟨e, he, -⟩ := map_ok_iff.1 hp
    cases hs : Nth.ofString? (String.ofList (Nat.toDigits 10 n)) with
    | none =>
      rw [nthArgument, hs] at he
      cases he
    | some e' => exact Nth.lt_of_ofString?_toDigits hs
  rw [pseudoClass_nthChild hn rest] at h
  cases h
  exact ⟨hn, rfl, rfl⟩

/-- The characters of a place with a number. -/
theorem toList_place_nth (n : Nat) (rest : List Char) :
    (Place.nth n).text.toList ++ rest =
      ':' :: ("nth-child".toList ++ '(' :: (Nat.toDigits 10 n ++ ')' :: rest)) := by
  have hdigits : (toString n).toList = Nat.toDigits 10 n := by
    rw [Nat.toString_eq_ofList_toDigits, String.toList_ofList]
  rw [Place.text, String.toList_append, String.toList_append, hdigits, List.append_assoc,
    List.append_assoc]
  rfl

/-- A place starts as a condition does. -/
theorem place_start (p : Place) : ∃ d t, p.text.toList = d :: t ∧ d ∈ conditionStarts := by
  cases p with
  | first => exact ⟨_, _, rfl, by decide⟩
  | last => exact ⟨_, _, rfl, by decide⟩
  | nth n =>
    have hchars := toList_place_nth n []
    rw [List.append_nil] at hchars
    exact ⟨_, _, hchars, by decide⟩

/-- **A place is read as its condition**, and its number fits. -/
theorem condition?_place {p : Place} {k : Component} (hrest : EndsCondition rest)
    (h : condition? (p.text.toList ++ rest) = some (.ok (k, r))) :
    (k = .pseudo p.pseudoClass ∧ r = rest) ∧ ∀ n, p = .nth n → n < 2 ^ 31 := by
  cases p with
  | first =>
    have hread : condition? (Place.first.text.toList ++ rest) =
        some (.ok (.pseudo .firstChild, rest)) :=
      condition?_word "first-child" (by decide) rfl hrest
    rw [hread] at h
    cases h
    exact ⟨⟨rfl, rfl⟩, fun n hn => by cases hn⟩
  | last =>
    -- the two words are conditions as they stand; only a number has to fit
    have hread : condition? (Place.last.text.toList ++ rest) =
        some (.ok (.pseudo .lastChild, rest)) :=
      condition?_word "last-child" (by decide) rfl hrest
    rw [hread] at h
    cases h
    exact ⟨⟨rfl, rfl⟩, fun n hn => by cases hn⟩
  | nth n =>
    rw [toList_place_nth, condition?, Option.some_inj] at h
    obtain ⟨⟨p, r'⟩, hp, heq⟩ := map_ok_iff.1 h
    obtain ⟨hn, rfl, rfl⟩ := pseudoClass_number hp
    cases heq
    refine ⟨⟨rfl, rfl⟩, ?_⟩
    rintro n' ⟨⟩
    exact hn

/-! ## Rows of tokens

  Tokens are written one after another with nothing in between.  They can be told apart because each
  starts with a sign that ends the one before. -/

/-- What conditions are read as: nothing where none starts, or one and then those after it. -/
theorem conditions_ok_cases {s : List Char} {ks : List Component} (h : conditions s = .ok (ks, r)) :
    (condition? s = none ∧ ks = [] ∧ r = s) ∨
      ∃ k s' ks', condition? s = some (.ok (k, s')) ∧ conditions s' = .ok (ks', r) ∧
        ks = k :: ks' := by
  rw [conditions.eq_def] at h
  split at h
  · rename_i hnone
    cases h
    exact Or.inl ⟨hnone, rfl, rfl⟩
  · cases h
  · rename_i k s' hk
    obtain ⟨⟨ks', r'⟩, hks, h⟩ := bind_ok_iff.1 h
    cases h
    exact Or.inr ⟨k, s', ks', hk, hks, rfl⟩

/-- The next condition ends what stands before it. -/
theorem endsCondition_of_start {w : List Char} (hw : ∃ d t, w = d :: t ∧ d ∈ conditionStarts)
    (rest : List Char) : EndsCondition (w ++ rest) := by
  have hends : ∀ d ∈ conditionStarts, isNameChar d = false ∧ d ≠ '\\' ∧ d ≠ '(' :=
    List.all_iff_forall_prop.1 (by decide)
  obtain ⟨d, t, rfl, hd⟩ := hw
  exact hends d hd

/-- Where a condition starts, the reader of conditions takes it up. -/
theorem condition?_ne_none {w : List Char} (hw : ∃ d t, w = d :: t ∧ d ∈ conditionStarts)
    (rest : List Char) : condition? (w ++ rest) ≠ none := by
  obtain ⟨d, t, rfl, hd⟩ := hw
  simp only [conditionStarts, List.mem_cons, List.not_mem_nil, or_false] at hd
  rcases hd with rfl | rfl | rfl | rfl <;> exact Option.some_ne_none _

/-- A row of texts, with what each of them means. -/
abbrev Row := List (String × Component)

/-- A row starts with a condition, or with what stands behind it. -/
theorem endsCondition_row {row : Row} (hrow : ∀ p ∈ row, Means p.1 p.2)
    (hrest : EndsCondition rest) :
    EndsCondition ((row.map Prod.fst).flatMap String.toList ++ rest) := by
  cases row with
  | nil => exact hrest
  | cons p row =>
    rw [List.map_cons, List.flatMap_cons, List.append_assoc]
    exact endsCondition_of_start (hrow p List.mem_cons_self).start _

/-- **A row is read token by token**, up to what stands behind it.  By induction on the row: the
    reader takes up each token, since it starts like a condition, and ends where the next one
    starts. -/
theorem conditions_row {row : Row} (hrow : ∀ p ∈ row, Means p.1 p.2) (hrest : EndsCondition rest)
    {ks : List Component}
    (hks : conditions ((row.map Prod.fst).flatMap String.toList ++ rest) = .ok (ks, r)) :
    ∃ later, ks = row.map Prod.snd ++ later ∧ conditions rest = .ok (later, r) := by
  induction row generalizing ks with
  | nil => exact ⟨ks, rfl, hks⟩
  | cons p row ih =>
    obtain ⟨hp, hlater⟩ := List.forall_mem_cons.1 hrow
    rw [List.map_cons, List.flatMap_cons, List.append_assoc] at hks
    rcases conditions_ok_cases hks with ⟨hnone, -, -⟩ | ⟨k, s', ks', hk, hks', rfl⟩
    · exact absurd hnone (condition?_ne_none hp.start _)
    · obtain ⟨rfl, rfl⟩ := hp.read _ _ _ (endsCondition_row hlater hrest) hk
      obtain ⟨later, rfl, hread⟩ := ih hlater hks'
      exact ⟨later, rfl, hread⟩

/-- A place at the end of a row, if there is one. -/
theorem conditions_place {place : Option Place} (hrest : EndsCompound rest) {ks : List Component}
    (hks : conditions ((place.toList.map Place.text).flatMap String.toList ++ rest) = .ok (ks, r)) :
    ks = place.toList.map (fun p => .pseudo p.pseudoClass) ∧ r = rest ∧
      ∀ n, place = some (.nth n) → n < 2 ^ 31 := by
  cases place with
  | none =>
    have hnone : conditions rest = .ok ([], rest) := conditions_of_none hrest.condition?_eq
    rw [Option.toList_none, List.map_nil, List.flatMap_nil, List.nil_append, hnone] at hks
    cases hks
    exact ⟨rfl, rfl, fun n hn => by cases hn⟩
  | some p =>
    rw [Option.toList_some, List.map_singleton, List.flatMap_singleton] at hks
    rcases conditions_ok_cases hks with ⟨hnone, -, -⟩ | ⟨k, s', ks', hk, hks', rfl⟩
    · exact absurd hnone (condition?_ne_none (place_start p) _)
    · obtain ⟨⟨rfl, rfl⟩, hn⟩ := condition?_place hrest.endsCondition hk
      rw [conditions_of_none hrest.condition?_eq] at hks'
      cases hks'
      refine ⟨rfl, rfl, ?_⟩
      rintro n ⟨⟩
      exact hn n rfl

end Reader

/-! ## Compounds

  The readers of a compound look for a tag first and for conditions behind it.  For a text of a
  description both find what was written. -/

/-- Where a text is a selector, its first alternative is read; it is the only one when nothing is left
    behind it. -/
theorem Selector.exists_complex_of_parse {s : String} {y : Selector}
    (h : Selector.parse s = .ok y) :
    ∃ x r, Reader.complex s.toList = .ok (x, r) ∧ (r = [] → y = [x]) := by
  unfold Selector.parse at h
  split at h
  · cases h
  · rw [mapError_ok_iff, Reader.alternatives_eq] at h
    obtain ⟨⟨x, r⟩, hx, h⟩ := Reader.bind_ok_iff.1 h
    refine ⟨x, r, hx, ?_⟩
    rintro rfl
    cases h
    rfl

namespace Description

open Reader

variable {q : Description} {rest r : List Char}

/-- A description in plain words, whose place has no other name.  An element whose names and values
    are plain has no other descriptions. -/
structure IsPlain (q : Description) : Prop where
  tag : ∀ w, q.tag = some w → w ≠ "" ∧ isPlainName w = true ∧ Ascii.lower w = w
  id : ∀ v, q.id = some v → isPlainName v = true
  classes : ∀ v ∈ q.classes, isPlainName v = true
  attributes : ∀ a ∈ q.attributes, isPlainName a.1 = true ∧ isPlainValue a.2 = true
  place : ∀ n, q.place = some (.nth n) → 2 ≤ n

/-- The tokens and their meanings. -/
def row (q : Description) : Row :=
  q.id.toList.map (fun v => ("#" ++ v, .id v)) ++
    q.classes.map (fun v => ("." ++ v, .className v)) ++
    q.attributes.map fun a =>
      (attributeToken a, .attribute ⟨Ascii.lower a.1, some (.equals, a.2), false⟩)

/-- The texts of the row are the tokens. -/
theorem row_fst (q : Description) : q.row.map Prod.fst = q.tokens := by
  simp [row, tokens, Function.comp_def]

/-- The meanings of the row are the conditions. -/
theorem row_snd (q : Description) : q.row.map Prod.snd = q.conditions := by
  simp [row, conditions, Function.comp_def]

/-- Each token of a plain description means its condition. -/
theorem IsPlain.means (hq : q.IsPlain) : ∀ p ∈ q.row, Means p.1 p.2 := by
  intro p hp
  rw [row, List.mem_append, List.mem_append, List.mem_map, List.mem_map, List.mem_map] at hp
  rcases hp with (⟨v, hv, rfl⟩ | ⟨v, hv, rfl⟩) | ⟨a, ha, rfl⟩
  · exact means_id (hq.id v (Option.mem_toList.1 hv))
  · exact means_className (hq.classes v hv)
  · exact means_attribute (hq.attributes a ha).1 (hq.attributes a ha).2

/-- What is written behind the tag. -/
def body (q : Description) : List Char :=
  (q.row.map Prod.fst).flatMap String.toList ++
    (q.place.toList.map Place.text).flatMap String.toList

/-- The text is the tag and then the body. -/
theorem toList_text (q : Description) :
    q.text.toList = q.tag.toList.flatMap String.toList ++ q.body := by
  rw [text, String.toList_join, List.flatMap_append, List.flatMap_append, body, row_fst,
    List.append_assoc]

/-- Behind the tag a condition starts, or nothing is written. -/
theorem IsPlain.body_cases (hq : q.IsPlain) :
    q.body = [] ∨ ∃ d t, q.body = d :: t ∧ d ∈ conditionStarts := by
  rw [body]
  cases hrow : q.row with
  | cons p row =>
    obtain ⟨d, t, hstart, hd⟩ := (hq.means p (by rw [hrow]; exact List.mem_cons_self)).start
    rw [List.map_cons, List.flatMap_cons, hstart, List.cons_append, List.cons_append]
    exact Or.inr ⟨d, _, rfl, hd⟩
  | nil =>
    cases q.place with
    | none => exact Or.inl rfl
    | some p =>
      refine Or.inr ?_
      rw [List.map_nil, List.flatMap_nil, List.nil_append, Option.toList_some, List.map_singleton,
        List.flatMap_singleton]
      exact place_start p

/-- The body ends the tag. -/
theorem IsPlain.endsCondition_body (hq : q.IsPlain) (hrest : EndsCompound rest) :
    EndsCondition (q.body ++ rest) := by
  rcases hq.body_cases with hnil | hstart
  · rw [hnil]
    exact hrest.endsCondition
  · exact endsCondition_of_start hstart rest

/-- The body is not taken for a tag where there is none. -/
theorem IsPlain.leading_body (hq : q.IsPlain) (hrest : EndsCompound rest) :
    leading (q.body ++ rest) = .ok ([], q.body ++ rest) := by
  rcases hq.body_cases with hnil | ⟨d, t, hstart, hd⟩
  · rw [hnil, List.nil_append]
    cases rest with
    | nil => rfl
    | cons c t =>
      rcases hrest with rfl | rfl
      · exact leading_of_ne (by decide) (by decide) t
      · exact leading_of_ne (by decide) (by decide) t
  · rw [hstart]
    exact leading_condition hd _

/-- A place ends the token before it, and so does what stands behind it. -/
theorem endsCondition_place (hrest : EndsCompound rest) :
    EndsCondition ((q.place.toList.map Place.text).flatMap String.toList ++ rest) := by
  cases q.place with
  | none => exact hrest.endsCondition
  | some p =>
    rw [Option.toList_some, List.map_singleton, List.flatMap_singleton]
    exact endsCondition_of_start (place_start p) rest

/-- The body is read as the tokens and the place mean it. -/
theorem IsPlain.conditions_body (hq : q.IsPlain) (hrest : EndsCompound rest)
    {ks : List Component} (h : Reader.conditions (q.body ++ rest) = .ok (ks, r)) :
    ks = q.conditions ++ q.place.toList.map (fun p => .pseudo p.pseudoClass) ∧ r = rest ∧
      ∀ n, q.place = some (.nth n) → n < 2 ^ 31 := by
  rw [body, List.append_assoc] at h
  obtain ⟨later, rfl, hlater⟩ := conditions_row hq.means (endsCondition_place hrest) h
  obtain ⟨rfl, rfl, hn⟩ := conditions_place hrest hlater
  exact ⟨by rw [row_snd], rfl, hn⟩

/-- The tag is read as a tag, when it starts like one. -/
theorem IsPlain.leading_tag (hq : q.IsPlain) {w : String} (hw : q.tag = some w)
    (hrest : EndsCondition rest) {k : Compound}
    (h : Reader.compound (w.toList ++ rest) = .ok (k, r)) :
    leading (w.toList ++ rest) = .ok ([.tag w], rest) := by
  obtain ⟨hne, hplain, hlower⟩ := hq.tag w hw
  obtain ⟨c, t, hcs⟩ := List.exists_cons_of_ne_nil (mt String.toList_eq_nil_iff.1 hne)
  have hname : isNameChar c = true := isNameChar_of_plain hplain hcs
  have hstar : c ≠ '*' := by
    rintro rfl
    exact absurd hname (by decide)
  rw [hcs, List.cons_append] at h ⊢
  cases hstart : isIdentStart c with
  | false =>
    rw [compound_error hstar hstart (condition?_of_isNameChar hname _)] at h
    cases h
  | true =>
    obtain ⟨⟨front, r'⟩, hlead, -⟩ := bind_ok_iff.1 h
    rw [hlead]
    rw [leading, if_neg hstar, if_pos hstart] at hlead
    obtain ⟨⟨v, r''⟩, hident, hfront⟩ := map_ok_iff.1 hlead
    rw [← List.cons_append, ← hcs] at hident
    obtain ⟨rfl, rfl⟩ := ident_plain hplain hrest hident
    dsimp only at hfront
    rw [hlower] at hfront
    rw [hfront]

/-- What is read for the text is the tag, and what is read for the body. -/
theorem IsPlain.exists_conditions_of_compound (hq : q.IsPlain) (hrest : EndsCompound rest)
    {k : Compound} (h : Reader.compound (q.text.toList ++ rest) = .ok (k, r)) :
    ∃ ks, Reader.conditions (q.body ++ rest) = .ok (ks, r) ∧ k = q.tag.toList.map .tag ++ ks := by
  have hlead : leading (q.text.toList ++ rest) =
      .ok (q.tag.toList.map .tag, q.body ++ rest) := by
    rw [toList_text, List.append_assoc] at h ⊢
    cases htag : q.tag with
    | none => exact hq.leading_body hrest
    | some w =>
      rw [htag, Option.toList_some, List.flatMap_singleton] at h
      rw [Option.toList_some, List.flatMap_singleton]
      exact hq.leading_tag htag (hq.endsCondition_body hrest) h
  obtain ⟨⟨front, r₁⟩, hfront, hbehind⟩ := bind_ok_iff.1 h
  rw [hlead] at hfront
  cases hfront
  obtain ⟨⟨ks, r₂⟩, hks, hwhole⟩ := bind_ok_iff.1 hbehind
  dsimp only at hwhole
  split at hwhole
  · cases hwhole
  · cases hwhole
    exact ⟨ks, hks, rfl⟩

/-- **The text of a plain description is read as its compound**, where it is read.  Nothing is left
    of the text, and the number of its place is one that the matcher has. -/
theorem IsPlain.compound_text (hq : q.IsPlain) (hrest : EndsCompound rest) {k : Compound}
    (h : Reader.compound (q.text.toList ++ rest) = .ok (k, r)) : k = q.compound ∧ r = rest ∧
      ∀ p, q.place = some p → p.IsInRange := by
  obtain ⟨ks, hks, rfl⟩ := hq.exists_conditions_of_compound hrest h
  obtain ⟨rfl, rfl, hn⟩ := hq.conditions_body hrest hks
  refine ⟨by rw [compound, List.append_assoc], rfl, fun p hp => ?_⟩
  cases p with
  | first => trivial
  | last => trivial
  | nth n =>
    have hmax : Int32.maxValue.toInt = 2147483647 := by decide
    have hlt := hn n hp
    exact ⟨hq.place n hp, by omega⟩

/-- No joint stands at the start of the text. -/
theorem IsPlain.exists_start (hq : q.IsPlain) (hne : q.text ≠ "") :
    ∃ c t, q.text.toList = c :: t ∧ isJoint c = false := by
  have hjoint : ∀ d ∈ conditionStarts, isJoint d = false := List.all_iff_forall_prop.1 (by decide)
  have hchars := toList_text q
  cases htag : q.tag with
  | none =>
    rw [htag, Option.toList_none, List.flatMap_nil, List.nil_append] at hchars
    rcases hq.body_cases with hnil | ⟨d, t, hstart, hd⟩
    · rw [hnil, String.toList_eq_nil_iff] at hchars
      exact absurd hchars hne
    · exact ⟨d, t, hchars.trans hstart, hjoint d hd⟩
  | some w =>
    obtain ⟨hw, hplain, -⟩ := hq.tag w htag
    obtain ⟨c, t, hcs⟩ := List.exists_cons_of_ne_nil (mt String.toList_eq_nil_iff.1 hw)
    rw [htag, Option.toList_some, List.flatMap_singleton, hcs] at hchars
    exact ⟨c, t ++ q.body, hchars, isJoint_of_isNameChar (isNameChar_of_plain hplain hcs)⟩

/-- No blank is skipped before the text. -/
theorem IsPlain.skipBlanks_text (hq : q.IsPlain) (hne : q.text ≠ "") (rest : List Char) :
    skipBlanks (q.text.toList ++ rest) = q.text.toList ++ rest := by
  obtain ⟨c, t, hcs, hc⟩ := hq.exists_start hne
  simp only [isJoint, Bool.or_eq_false_iff] at hc
  rw [hcs, List.cons_append, skipBlanks, List.dropWhile_cons, hc.2]
  rfl

/-- A text that is read alone is one compound. -/
theorem IsPlain.exists_compound_of_parse (hq : q.IsPlain) (hne : q.text ≠ "") {y : Selector}
    (h : Selector.parse q.text = .ok y) :
    ∃ k, Reader.compound (q.text.toList ++ []) = .ok (k, []) ∧ y = [[⟨none, k⟩]] := by
  obtain ⟨x, r, hx, hy⟩ := Selector.exists_complex_of_parse h
  have hskip := hq.skipBlanks_text hne []
  rw [List.append_nil] at hskip
  rw [complex_eq, hskip] at hx
  obtain ⟨⟨k, r₁⟩, hk, hx⟩ := bind_ok_iff.1 hx
  rw [← List.append_nil q.text.toList] at hk
  have hends : EndsCompound [] := trivial
  obtain ⟨-, rfl, -⟩ := hq.compound_text hends hk
  rw [Chain.laterParts_nil, ok_bind] at hx
  cases hx
  exact ⟨k, hk, hy rfl⟩

/-- **The compound of a description is what its text means** where it is a selector. -/
theorem IsPlain.parse_text (hq : q.IsPlain) (hne : q.text ≠ "") {y : Selector}
    (h : Selector.parse q.text = .ok y) :
    y = [[⟨none, q.compound⟩]] ∧ ∀ p, q.place = some p → p.IsInRange := by
  obtain ⟨k, hk, rfl⟩ := hq.exists_compound_of_parse hne h
  have hends : EndsCompound [] := trivial
  obtain ⟨rfl, -, hplace⟩ := hq.compound_text hends hk
  exact ⟨rfl, hplace⟩

end Description

/-! ## Chains

  The segments of a chain are texts of descriptions here, one for each element that has one. -/

namespace Chain

open Reader

variable {o : Options} {slots : List (Option Segment)} {rest r : List Char}

/-- The text of a description in plain words that the options allow. -/
def IsWorded (o : Options) (s : Segment) : Prop :=
  s ≠ "" ∧ ∃ q : Description, q.IsPlain ∧ q.AllowedBy o ∧ s = q.text

/-- A segment that is read alone is one compound. -/
theorem IsWorded.parse {s : Segment} (hs : IsWorded o s) {y : Selector}
    (h : Selector.parse s = .ok y) : ∃ k : Compound, y = [[⟨none, k⟩]] ∧ k.AllowedBy o := by
  obtain ⟨hne, q, hq, hallowed, rfl⟩ := hs
  obtain ⟨rfl, hplace⟩ := hq.parse_text hne h
  exact ⟨_, rfl, q, hallowed, hplace, rfl⟩

/-- A joint is read as a link, and what is described starts behind it. -/
theorem exists_link {j : Joint} (hj : j ≠ .start) {q : Description} (hq : q.IsPlain)
    (hne : q.text ≠ "") (rest : List Char) :
    ∃ op, link (j.text.toList ++ (q.text.toList ++ rest)) =
      .ok (some (op, q.text.toList ++ rest)) := by
  have hskip := hq.skipBlanks_text hne rest
  cases j with
  | start => exact absurd rfl hj
  | adjacent =>
    have hlink : link (" > ".toList ++ (q.text.toList ++ rest)) =
        .ok (some (.child, skipBlanks (q.text.toList ++ rest))) := rfl
    rw [hskip] at hlink
    exact ⟨.child, hlink⟩
  | gap =>
    -- what is described starts neither with `>` nor with a comma, so the space is the link
    obtain ⟨c, t, hcs, hc⟩ := hq.exists_start hne
    simp only [isJoint, Bool.or_eq_false_iff, decide_eq_false_iff_not] at hc
    have hspace : " ".toList ++ (q.text.toList ++ rest) = ' ' :: (q.text.toList ++ rest) := rfl
    have hskip' : skipBlanks (' ' :: (q.text.toList ++ rest)) = c :: (t ++ rest) := by
      have hdrop : ∀ u, skipBlanks (' ' :: u) = skipBlanks u := fun _ => rfl
      rw [hdrop, hskip, hcs, List.cons_append]
    refine ⟨.descendant, ?_⟩
    rw [Joint.text, hspace, link, hskip', hcs]
    simp [hc.1.1, hc.1.2, isBlank_space]

/-- What is written behind a segment ends its compound. -/
theorem endsCompound_renderFrom (slots : List (Option Segment)) :
    EndsCompound (renderFrom .adjacent slots).toList := by
  rcases toList_renderFrom_cases (j := .adjacent) (by simp) slots with hnil | ⟨u, hu⟩
  · rw [hnil]
    trivial
  · rw [hu]
    exact Or.inl rfl

/-- **The places behind a segment are read to their end**, as allowed compounds.  By induction on
    the places; an empty one only changes the joint. -/
theorem laterParts_of_isWorded {j : Joint} (hj : j ≠ .start)
    (hs : ∀ s, some s ∈ slots → IsWorded o s) {ps : List Part}
    (h : laterParts (renderFrom j slots).toList = .ok (ps, r)) :
    r = [] ∧ ∀ p ∈ ps, p.compound.AllowedBy o := by
  induction slots generalizing j ps with
  | nil =>
    have hnil : laterParts (renderFrom j []).toList = .ok ([], []) := laterParts_nil
    rw [hnil] at h
    cases h
    exact ⟨rfl, fun p hp => absurd hp List.not_mem_nil⟩
  | cons x slots ih =>
    have hslots : ∀ s, some s ∈ slots → IsWorded o s :=
      fun s hmem => hs s (List.mem_cons_of_mem _ hmem)
    cases x with
    | none => exact ih (skip_ne_start hj) hslots h
    | some s =>
      obtain ⟨hne, q, hq, hallowed, rfl⟩ := hs s List.mem_cons_self
      -- one link, one compound, and the induction for what is behind them
      obtain ⟨op, hlink⟩ := exists_link hj hq hne (renderFrom .adjacent slots).toList
      rw [toList_renderFrom_some, laterParts_of_some hlink] at h
      obtain ⟨⟨k, r₁⟩, hk, h⟩ := bind_ok_iff.1 h
      obtain ⟨rfl, rfl, hplace⟩ := hq.compound_text (endsCompound_renderFrom slots) hk
      obtain ⟨⟨later, r₂⟩, hlater, h⟩ := bind_ok_iff.1 h
      cases h
      obtain ⟨rfl, hps⟩ := ih (j := .adjacent) (by simp) hslots hlater
      exact ⟨rfl, List.forall_mem_cons.2 ⟨⟨q, hallowed, hplace, rfl⟩, hps⟩⟩

/-- From the start of the chain: the first segment is read without a link, and the others behind
    it. -/
theorem complex_of_isWorded (hs : ∀ s, some s ∈ slots → IsWorded o s) {x : Complex}
    (h : complex (renderFrom .start slots).toList = .ok (x, r)) :
    r = [] ∧ ∀ p ∈ x, p.compound.AllowedBy o := by
  induction slots with
  | nil =>
    have hempty : complex (renderFrom .start []).toList = .error .unexpectedEnd := by
      decide +kernel
    rw [hempty] at h
    cases h
  | cons y slots ih =>
    have hslots : ∀ s, some s ∈ slots → IsWorded o s :=
      fun s hmem => hs s (List.mem_cons_of_mem _ hmem)
    cases y with
    | none => exact ih hslots h
    | some s =>
      obtain ⟨hne, q, hq, hallowed, rfl⟩ := hs s List.mem_cons_self
      have htext : (renderFrom .start (some q.text :: slots)).toList =
          q.text.toList ++ (renderFrom .adjacent slots).toList :=
        toList_renderFrom_some .start q.text slots
      rw [htext, complex_eq, hq.skipBlanks_text hne] at h
      obtain ⟨⟨k, r₁⟩, hk, h⟩ := bind_ok_iff.1 h
      obtain ⟨rfl, rfl, hplace⟩ := hq.compound_text (endsCompound_renderFrom slots) hk
      obtain ⟨⟨later, r₂⟩, hlater, h⟩ := bind_ok_iff.1 h
      cases h
      obtain ⟨rfl, hps⟩ := laterParts_of_isWorded (by simp) hslots hlater
      exact ⟨rfl, List.forall_mem_cons.2 ⟨⟨q, hallowed, hplace, rfl⟩, hps⟩⟩

/-- **A chain of worded segments is read as one alternative of allowed compounds**, where it is
    read.  A comma would start another alternative, and no joint and no plain text has one. -/
theorem parse_render_of_isWorded {c : Chain} (hs : ∀ i s, c.get? i = some s → IsWorded o s)
    {y : Selector} (h : Selector.parse c.render = .ok y) :
    ∃ x, y = [x] ∧ ∀ p ∈ x, p.compound.AllowedBy o := by
  have hslots : ∀ s, some s ∈ c.slots → IsWorded o s := by
    intro s hmem
    obtain ⟨i, hi⟩ := exists_get?_iff.2 hmem
    exact hs i s hi
  obtain ⟨x, r, hx, hy⟩ := Selector.exists_complex_of_parse h
  obtain ⟨hr, hallowed⟩ := complex_of_isWorded hslots hx
  exact ⟨x, hy hr, hallowed⟩

end Chain

end Pinpoint
