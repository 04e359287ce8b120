/-
  Reading a selector from text.

  1. Compounds: a leading star or tag, then conditions as long as they come.
  2. Alternatives: compounds, each after the first with its link to the left.
  3. Selectors: alternatives between commas, to the end of the text.
  4. The place of a fault, counted in bytes from the start, and `Selector.parse`.
-/
import Pinpoint.Selector.Reader.Progress

namespace Pinpoint.Reader

/-! ## Compounds -/

/-- All conditions that follow, up to the first character that starts none. -/
def conditions (s : List Char) : Except Fault (List Component × List Char) :=
  match _h : condition? s with
  | none => .ok ([], s)
  | some (.error e) => .error e
  | some (.ok (c, rest)) => do
    let (cs, rest') ← conditions rest
    return (c :: cs, rest')
termination_by s.length
decreasing_by exact (condition?_consumes ‹_›).length_lt

/-- The star or tag that may lead a compound. -/
def leading (s : List Char) : Except Fault (List Component × List Char) :=
  match s with
  | [] => .ok ([], [])
  | c :: rest =>
    if c = '*' then .ok ([.universal], rest)
    else if isIdentStart c then (ident (c :: rest)).map fun (w, rest) => ([.tag (Ascii.lower w)], rest)
    else .ok ([], c :: rest)

/-- A compound: at least one condition. -/
def compound (s : List Char) : Except Fault (Compound × List Char) := do
  let (front, rest) ← leading s
  let (cs, rest) ← conditions rest
  if (front ++ cs).isEmpty then throw (faultAt rest) else return (front ++ cs, rest)

theorem conditions_suffix {s rest : List Char} {cs : List Component}
    (h : conditions s = .ok (cs, rest)) : rest <:+ s ∧ (cs ≠ [] → Consumes s rest) := by
  fun_induction conditions s generalizing cs rest with
  | case1 => cases h; simp
  | case2 => cases h
  | case3 s c r hc ih =>
    obtain ⟨⟨cs', r'⟩, hr, h⟩ := bind_ok_iff.1 h
    cases h
    have := (condition?_consumes hc).suffix (ih hr).1
    exact ⟨this.isSuffix, fun _ => this⟩

theorem leading_suffix {s rest : List Char} {cs : List Component}
    (h : leading s = .ok (cs, rest)) : rest <:+ s ∧ (cs ≠ [] → Consumes s rest) := by
  cases s with
  | nil => cases h; simp
  | cons c t =>
    simp only [leading] at h
    split at h
    · cases h; exact ⟨List.suffix_cons _ _, fun _ => consumes_cons _ _⟩
    · split at h
      · obtain ⟨⟨w, r⟩, hr, h⟩ := map_ok_iff.1 h
        cases h
        exact ⟨(ident_consumes hr).isSuffix, fun _ => ident_consumes hr⟩
      · cases h; simp

theorem compound_consumes {s rest : List Char} {c : Compound}
    (h : compound s = .ok (c, rest)) : Consumes s rest := by
  obtain ⟨⟨front, r⟩, h₁, h⟩ := bind_ok_iff.1 h
  obtain ⟨⟨cs, r'⟩, h₂, h⟩ := bind_ok_iff.1 h
  by_cases hne : (front ++ cs).isEmpty
  · simp [hne] at h
  · simp only [hne] at h
    cases h
    by_cases hf : front = []
    · have : cs ≠ [] := by rintro rfl; simp [hf] at hne
      exact ((conditions_suffix h₂).2 this).of_suffix (leading_suffix h₁).1
    · exact ((leading_suffix h₁).2 hf).suffix (conditions_suffix h₂).1

/-! ## Alternatives -/

/-- How the next compound is joined on, and where it starts; none at the end of an alternative. -/
def link (s : List Char) : Except Fault (Option (Combinator × List Char)) :=
  match skipBlanks s with
  | [] => .ok none
  | c :: rest =>
    if c = ',' then .ok none
    else if c = '>' then .ok (some (.child, skipBlanks rest))
    else if (s.head?.map Ascii.isBlank).getD false then .ok (some (.descendant, c :: rest))
    else .error (.unexpected c rest)

theorem link_suffix {s rest : List Char} {op : Combinator} (h : link s = .ok (some (op, rest))) :
    rest <:+ s := by
  have hs := skipBlanks_suffix s
  simp only [link] at h
  split at h
  · cases h
  · rename_i c t heq
    rw [heq] at hs
    split at h
    · cases h
    · split at h
      · cases h; exact ((skipBlanks_suffix t).trans (List.suffix_cons c t)).trans hs
      · split at h
        · cases h; exact hs
        · cases h

/-- The compounds after the first one, each with its link. -/
def laterParts (s : List Char) : Except Fault (List Part × List Char) :=
  match _hl : link s with
  | .error e => .error e
  | .ok none => .ok ([], skipBlanks s)
  | .ok (some (op, start)) =>
    match _hc : compound start with
    | .error e => .error e
    | .ok (c, rest) => do
      let (parts, rest') ← laterParts rest
      return (⟨some op, c⟩ :: parts, rest')
termination_by s.length
decreasing_by exact ((compound_consumes ‹_›).of_suffix (link_suffix ‹_›)).length_lt

/-- One alternative, blanks around it included. -/
def complex (s : List Char) : Except Fault (Complex × List Char) := do
  let (c, rest) ← compound (skipBlanks s)
  let (parts, rest) ← laterParts rest
  return (⟨none, c⟩ :: parts, rest)

theorem laterParts_suffix {s rest : List Char} {ps : List Part}
    (h : laterParts s = .ok (ps, rest)) : rest <:+ s := by
  fun_induction laterParts s generalizing ps rest with
  | case1 => cases h
  | case2 s => cases h; exact skipBlanks_suffix s
  | case3 => cases h
  | case4 s op start hl c r hc ih =>
    obtain ⟨⟨cs', r'⟩, hr, h⟩ := bind_ok_iff.1 h
    cases h
    exact (((compound_consumes hc).of_suffix (link_suffix hl)).suffix (ih hr)).isSuffix

theorem complex_consumes {s rest : List Char} {x : Complex} (h : complex s = .ok (x, rest)) :
    Consumes s rest := by
  obtain ⟨⟨c, r⟩, h₁, h⟩ := bind_ok_iff.1 h
  obtain ⟨⟨ps, r'⟩, h₂, h⟩ := bind_ok_iff.1 h
  cases h
  exact ((compound_consumes h₁).of_suffix (skipBlanks_suffix s)).suffix (laterParts_suffix h₂)

/-! ## Selectors -/

/-- Alternatives between commas, to the end of the text. -/
def alternatives (s : List Char) : Except Fault Selector :=
  match _h : complex s with
  | .error e => .error e
  | .ok (x, []) => .ok [x]
  | .ok (x, c :: rest) =>
    if c = ',' then (alternatives rest).map (x :: ·) else .error (.unexpected c rest)
termination_by s.length
decreasing_by exact ((complex_consumes ‹_›).trans (consumes_cons _ _)).length_lt

/-! ## The place of a fault -/

/-- The number of bytes of a text. -/
def byteLength (s : List Char) : Nat := s.foldr (fun c n => c.utf8Size + n) 0

/-- The error for a fault met while reading `s`. -/
def errorOf (s : List Char) : Fault → SelectorError
  | .unexpected c after => .unexpectedChar c (byteLength s - byteLength (c :: after))
  | .unexpectedEnd => .unexpectedEnd
  | .invalidIdentifier w => .invalidIdentifier w
  | .unsupportedPseudoClass w => .unsupportedPseudoClass w
  | .invalidNth arg => .invalidNth arg

end Pinpoint.Reader

namespace Pinpoint.Selector

/-- Read a selector. -/
def parse (s : String) : Except SelectorError Selector :=
  if Text.isBlankText s then .error .empty
  else (Reader.alternatives s.toList).mapError (Reader.errorOf s.toList)

end Pinpoint.Selector
