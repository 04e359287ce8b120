/-
  What a reader leaves unread.

  A reader that answers leaves a suffix of what it was given, and every reader but the blanks and
  the optional parts has read at least one character (`Consumes`).  The loops over conditions,
  compounds and alternatives end by this.
-/
import Pinpoint.Selector.Reader.Basic

namespace Pinpoint.Reader

/-! ## Steps and the rest -/

theorem bind_ok_iff {α β : Type} {x : Except Fault α} {f : α → Except Fault β} {b : β} :
    (x >>= f) = .ok b ↔ ∃ a, x = .ok a ∧ f a = .ok b := by
  cases x <;> simp [bind, Except.bind]

theorem map_ok_iff {α β : Type} {x : Except Fault α} {f : α → β} {b : β} :
    x.map f = .ok b ↔ ∃ a, x = .ok a ∧ f a = b := by
  cases x <;> simp [Except.map]

/-- `rest` is what is left of `s` after at least one character. -/
def Consumes (s rest : List Char) : Prop := ∃ p, p ≠ [] ∧ s = p ++ rest

theorem Consumes.length_lt {s rest : List Char} (h : Consumes s rest) :
    rest.length < s.length := by
  obtain ⟨p, hp, rfl⟩ := h
  have := List.length_pos_iff.2 hp
  simp; omega

theorem Consumes.of_suffix {s t rest : List Char} (h : Consumes t rest) (hs : t <:+ s) :
    Consumes s rest := by
  obtain ⟨p, hp, rfl⟩ := h
  obtain ⟨q, rfl⟩ := hs
  exact ⟨q ++ p, by simp [hp], by simp⟩

theorem Consumes.suffix {s t rest : List Char} (h : Consumes s t) (hs : rest <:+ t) :
    Consumes s rest := by
  obtain ⟨p, hp, rfl⟩ := h
  obtain ⟨q, rfl⟩ := hs
  exact ⟨p ++ q, by simp [hp], by simp⟩

theorem Consumes.isSuffix {s rest : List Char} (h : Consumes s rest) : rest <:+ s := by
  obtain ⟨p, _, rfl⟩ := h
  exact List.suffix_append p rest

theorem Consumes.trans {s t rest : List Char} (h : Consumes s t) (hs : Consumes t rest) :
    Consumes s rest := h.suffix hs.isSuffix

theorem consumes_cons (c : Char) (rest : List Char) : Consumes (c :: rest) rest :=
  ⟨[c], by simp, rfl⟩

theorem skipBlanks_suffix (s : List Char) : skipBlanks s <:+ s := List.dropWhile_suffix _

theorem expect_consumes {c : Char} {s rest : List Char} (h : expect c s = .ok rest) :
    Consumes s rest := by
  cases s with
  | nil => cases h
  | cons d t =>
    by_cases hd : d = c
    · simp only [expect, hd, if_true] at h
      cases h; exact consumes_cons _ _
    · simp [expect, hd] at h

theorem nameChars_suffix {s w rest : List Char} (h : nameChars s = .ok (w, rest)) :
    rest <:+ s ∧ (w ≠ [] → Consumes s rest) := by
  fun_induction nameChars s generalizing w rest with
  | case1 => cases h; simp
  | case2 => cases h
  | case3 c s ih =>
    obtain ⟨⟨cs, r⟩, hs, h⟩ := bind_ok_iff.1 h
    cases h
    have := ((consumes_cons '\\' (c :: s)).trans (consumes_cons c s)).suffix (ih hs).1
    exact ⟨this.isSuffix, fun _ => this⟩
  | case4 c s _ _ hc ih =>
    obtain ⟨⟨cs, r⟩, hs, h⟩ := bind_ok_iff.1 h
    cases h
    have := (consumes_cons c s).suffix (ih hs).1
    exact ⟨this.isSuffix, fun _ => this⟩
  | case5 c s => cases h; simp

theorem name_consumes {s rest : List Char} {w : String} (h : name s = .ok (w, rest)) :
    Consumes s rest := by
  obtain ⟨⟨cs, r⟩, hs, h⟩ := bind_ok_iff.1 h
  by_cases hc : cs = []
  · simp [hc] at h
  · simp [hc] at h
    cases h; exact (nameChars_suffix hs).2 hc

theorem ident_consumes {s rest : List Char} {w : String} (h : ident s = .ok (w, rest)) :
    Consumes s rest := by
  obtain ⟨⟨v, r⟩, hs, h⟩ := bind_ok_iff.1 h
  dsimp only at h
  split at h
  · cases h
  · cases h; exact name_consumes hs

theorem quoted_consumes {q : Char} {s w rest : List Char} (h : quoted q s = .ok (w, rest)) :
    Consumes s rest := by
  fun_induction quoted q s generalizing w rest with
  | case1 => cases h
  | case2 s => cases h; exact consumes_cons _ _
  | case3 => cases h
  | case4 d s _ ih =>
    obtain ⟨⟨cs, r⟩, hs, h⟩ := bind_ok_iff.1 h
    cases h
    exact ((consumes_cons _ _).trans (consumes_cons d s)).trans (ih hs)
  | case5 c s _ _ ih =>
    obtain ⟨⟨cs, r⟩, hs, h⟩ := bind_ok_iff.1 h
    cases h
    exact (consumes_cons c s).trans (ih hs)

theorem comparison_consumes {s rest : List Char} {op : Comparison}
    (h : comparison s = .ok (op, rest)) : Consumes s rest := by
  cases s with
  | nil => cases h
  | cons c t =>
    simp only [comparison] at h
    split at h
    · cases h; exact consumes_cons _ _
    · split at h
      · cases h
      · obtain ⟨r, hr, h⟩ := bind_ok_iff.1 h
        cases h
        exact (consumes_cons c t).trans (expect_consumes hr)

theorem attributeValue_consumes {s rest : List Char} {v : String}
    (h : attributeValue s = .ok (v, rest)) : Consumes s rest := by
  cases s with
  | nil => cases h
  | cons c t =>
    simp only [attributeValue] at h
    split at h
    · obtain ⟨⟨cs, r⟩, hr, h⟩ := bind_ok_iff.1 h
      cases h
      exact (consumes_cons c t).trans (quoted_consumes hr)
    · exact ident_consumes h

theorem caseFlag_suffix (s : List Char) : (caseFlag s).2 <:+ s := by
  cases s with
  | nil => exact List.suffix_refl _
  | cons c t =>
    simp only [caseFlag]
    split
    · exact (skipBlanks_suffix t).trans (List.suffix_cons c t)
    · split
      · exact (skipBlanks_suffix t).trans (List.suffix_cons c t)
      · exact List.suffix_refl _

theorem attributeTest_consumes {s rest : List Char} {t : AttributeTest}
    (h : attributeTest s = .ok (t, rest)) : Consumes s rest := by
  obtain ⟨⟨w, r⟩, hw, h⟩ := bind_ok_iff.1 h
  have hs : Consumes s (skipBlanks r) :=
    ((ident_consumes hw).of_suffix (skipBlanks_suffix s)).suffix (skipBlanks_suffix r)
  dsimp only at h
  split at h
  · rename_i r' heq
    cases h
    rw [heq] at hs
    exact hs.trans (consumes_cons _ _)
  · obtain ⟨⟨op, r₁⟩, h₁, h⟩ := bind_ok_iff.1 h
    obtain ⟨⟨v, r₂⟩, h₂, h⟩ := bind_ok_iff.1 h
    obtain ⟨r₃, h₃, h⟩ := bind_ok_iff.1 h
    cases h
    have c₁ := hs.trans (comparison_consumes h₁)
    have c₂ := c₁.trans ((attributeValue_consumes h₂).of_suffix (skipBlanks_suffix r₁))
    have c₃ := (c₂.suffix (skipBlanks_suffix r₂)).suffix (caseFlag_suffix (skipBlanks r₂))
    exact c₃.trans (expect_consumes h₃)

theorem argument_suffix {s rest : List Char} {arg : Option String}
    (h : argument s = .ok (arg, rest)) : rest <:+ s := by
  fun_cases argument s with
  | case1 t =>
    obtain ⟨r, hr, h⟩ := bind_ok_iff.1 h
    cases h
    exact (((expect_consumes hr).of_suffix (List.dropWhile_suffix _)).isSuffix).trans
      (List.suffix_cons _ t)
  | case2 t ht =>
    simp only [argument] at h
    cases h
    exact List.suffix_refl _

theorem pseudoClass_consumes {s rest : List Char} {p : PseudoClass}
    (h : pseudoClass s = .ok (p, rest)) : Consumes s rest := by
  obtain ⟨⟨w, r⟩, hw, h⟩ := bind_ok_iff.1 h
  obtain ⟨⟨arg, r₁⟩, h₁, h⟩ := bind_ok_iff.1 h
  obtain ⟨q, _, h⟩ := bind_ok_iff.1 h
  cases h
  exact (ident_consumes hw).suffix (argument_suffix h₁)

theorem condition?_consumes {s rest : List Char} {c : Component}
    (h : condition? s = some (.ok (c, rest))) : Consumes s rest := by
  fun_cases condition? s with
  | case1 t =>
    obtain ⟨⟨w, r⟩, hr, h⟩ := map_ok_iff.1 (Option.some.inj h)
    cases h
    exact (consumes_cons _ t).trans (name_consumes hr)
  | case2 t =>
    obtain ⟨⟨w, r⟩, hr, h⟩ := map_ok_iff.1 (Option.some.inj h)
    cases h
    exact (consumes_cons _ t).trans (ident_consumes hr)
  | case3 t =>
    obtain ⟨⟨w, r⟩, hr, h⟩ := map_ok_iff.1 (Option.some.inj h)
    cases h
    exact (consumes_cons _ t).trans (attributeTest_consumes hr)
  | case4 t =>
    obtain ⟨⟨w, r⟩, hr, h⟩ := map_ok_iff.1 (Option.some.inj h)
    cases h
    exact (consumes_cons _ t).trans (pseudoClass_consumes hr)
  | case5 => simp_all [condition?]

end Pinpoint.Reader
