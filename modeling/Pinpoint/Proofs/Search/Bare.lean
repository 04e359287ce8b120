/-
  Which plain texts can be read.

  A token writes a value as it stands.  A plain value is read back then unless it is empty or, for a
  class, starts like a number (`isBare`).

  1. A plain id and a bare class are read alone (`parse_id`, `parse_className`).
  2. **Where the text of a description is a selector, its id is not empty and its classes are bare**
     (`IsPlain.bare_of_parse`).
  3. Without attributes in use, only names have to be plain for the candidates of an element to be
     texts of plain descriptions (`exists_description_of_names`).
-/
import Pinpoint.Proofs.Search.Grammar

namespace Pinpoint

/-- Can a class of this name be written as it stands?  It must not be empty, and must not start like
    a number. -/
def isBare (v : String) : Bool := !v.isEmpty && !Reader.startsLikeNumber v.toList

/-! ## Single tokens

  In both directions: a token that can be read is read as it stands, and one that is read could
  be. -/

namespace Reader

variable {rest r : List Char} {v w : String}

/-- A plain name is read as it stands, if it is not empty. -/
theorem name_of_plain (hv : isPlainName v = true) (hne : v ≠ "") (hrest : EndsCondition rest) :
    name (v.toList ++ rest) = .ok (v, rest) := by
  refine bind_ok_iff.2 ⟨_, nameChars_of_all (List.all_eq_true.1 hv) hrest.nameChars_eq, ?_⟩
  have hchars : v.toList.isEmpty = false := by
    rw [List.isEmpty_eq_false_iff]
    exact mt String.toList_eq_nil_iff.1 hne
  dsimp only
  rw [hchars, String.ofList_toList]
  rfl

/-- A bare one is read as an identifier, too. -/
theorem ident_of_bare (hv : isPlainName v = true) (hbare : isBare v = true)
    (hrest : EndsCondition rest) : ident (v.toList ++ rest) = .ok (v, rest) := by
  simp only [isBare, Bool.and_eq_true, Bool.not_eq_true', String.isEmpty_eq_false_iff] at hbare
  have hident := ident_of_all (List.all_eq_true.1 hv) (mt String.toList_eq_nil_iff.1 hbare.1)
    hbare.2 hrest.nameChars_eq
  rwa [String.ofList_toList] at hident

/-- A plain name that is read as an identifier is bare.  An identifier may start like a number if
    its first character was escaped, and a plain name has no escape to start with. -/
theorem isBare_of_ident (hv : isPlainName v = true) (hrest : EndsCondition rest)
    (h : ident (v.toList ++ rest) = .ok (w, r)) : isBare v = true := by
  obtain ⟨⟨w', r'⟩, hname, h⟩ := bind_ok_iff.1 h
  have hne := name_ne_empty hname
  obtain ⟨rfl, rfl⟩ := name_plain hv hrest hname
  obtain ⟨c, t, hcs⟩ := List.exists_cons_of_ne_nil (mt String.toList_eq_nil_iff.1 hne)
  -- a plain name starts with no escape
  have hescape : (w'.toList ++ r').head? ≠ some '\\' := by
    have hc := isNameChar_of_plain hv hcs
    rw [hcs, List.cons_append, List.head?_cons]
    rintro ⟨⟩
    exact absurd hc (by decide)
  cases hnum : startsLikeNumber w'.toList with
  | false => simp [isBare, hnum, hne]
  | true =>
    dsimp only at h
    rw [hnum, Bool.true_and, if_pos (decide_eq_true hescape)] at h
    cases h

/-- An id that is read where it is written is not empty. -/
theorem ne_empty_of_condition?_id (hv : isPlainName v = true) (hrest : EndsCondition rest)
    {k : Component} (h : condition? (("#" ++ v).toList ++ rest) = some (.ok (k, r))) : v ≠ "" := by
  rw [toList_idToken, List.cons_append, condition?, Option.some_inj] at h
  obtain ⟨⟨w, r'⟩, hname, -⟩ := map_ok_iff.1 h
  obtain ⟨rfl, -⟩ := name_plain hv hrest hname
  exact name_ne_empty hname

/-- A class that is read where it is written is bare. -/
theorem isBare_of_condition?_className (hv : isPlainName v = true) (hrest : EndsCondition rest)
    {k : Component} (h : condition? (("." ++ v).toList ++ rest) = some (.ok (k, r))) :
    isBare v = true := by
  rw [toList_classToken, List.cons_append, condition?, Option.some_inj] at h
  obtain ⟨⟨w, r'⟩, hident, -⟩ := map_ok_iff.1 h
  exact isBare_of_ident hv hrest hident

end Reader

/-- The token of a plain id is a selector by itself. -/
theorem Selector.parse_id {v : String} (hv : isPlainName v = true) (hne : v ≠ "") :
    Selector.parse ("#" ++ v) = .ok [[⟨none, [.id v]⟩]] := by
  have hname : Reader.name (v.toList ++ []) = .ok (v, []) := Reader.name_of_plain hv hne trivial
  rw [List.append_nil] at hname
  refine Selector.parse_condition (Reader.toList_idToken v) (by decide) ?_
  rw [Reader.condition?, hname]
  rfl

/-- The token of a bare class is a selector by itself. -/
theorem Selector.parse_className {v : String} (hv : isPlainName v = true)
    (hbare : isBare v = true) : Selector.parse ("." ++ v) = .ok [[⟨none, [.className v]⟩]] := by
  have hident : Reader.ident (v.toList ++ []) = .ok (v, []) :=
    Reader.ident_of_bare hv hbare trivial
  rw [List.append_nil] at hident
  refine Selector.parse_condition (Reader.toList_classToken v) (by decide) ?_
  rw [Reader.condition?, hident]
  rfl

/-! ## Descriptions

  A description with several tokens is read as a whole or not at all.  So what is needed for one
  token is needed for each. -/

/-- Where a row is read, each of its tokens is.  By induction on the row; behind a token stands the
    text of the later ones, which ends it. -/
theorem Reader.exists_condition_of_mem_row {row : Row} (hrow : ∀ p ∈ row, Means p.1 p.2)
    {rest r : List Char} (hrest : EndsCondition rest) {ks : List Component}
    (hks : conditions ((row.map Prod.fst).flatMap String.toList ++ rest) = .ok (ks, r))
    {p : String × Component} (hp : p ∈ row) :
    ∃ rest' r', EndsCondition rest' ∧ condition? (p.1.toList ++ rest') = some (.ok (p.2, r')) := by
  induction row generalizing ks with
  | nil => cases hp
  | cons p' row ih =>
    obtain ⟨hp', hlater⟩ := List.forall_mem_cons.1 hrow
    have hends := endsCondition_row hlater hrest
    rw [List.map_cons, List.flatMap_cons, List.append_assoc] at hks
    rcases conditions_ok_cases hks with ⟨hnone, -, -⟩ | ⟨k, s', ks', hk, hks', rfl⟩
    · exact absurd hnone (condition?_ne_none hp'.start _)
    · obtain ⟨rfl, rfl⟩ := hp'.read _ _ _ hends hk
      rcases List.mem_cons.1 hp with rfl | hp
      · exact ⟨_, _, hends, hk⟩
      · exact ih hlater hks' hp

namespace Description

variable {q : Description}

/-- **Where the text is a selector, the id is not empty and the classes are bare.** -/
theorem IsPlain.bare_of_parse (hq : q.IsPlain) (hne : q.text ≠ "") {y : Selector}
    (h : Selector.parse q.text = .ok y) :
    (∀ v, q.id = some v → v ≠ "") ∧ ∀ v ∈ q.classes, isBare v = true := by
  have hends : Reader.EndsCompound [] := trivial
  obtain ⟨k, hk, -⟩ := hq.exists_compound_of_parse hne h
  obtain ⟨ks, hks, -⟩ := hq.exists_conditions_of_compound hends hk
  rw [body, List.append_assoc] at hks
  -- a body that is read has been read condition by condition
  have hread := fun p hp => Reader.exists_condition_of_mem_row hq.means
    (endsCondition_place hends) hks (p := p) hp
  refine ⟨fun v hv => ?_, fun v hv => ?_⟩
  · have hmem : (("#" ++ v, .id v) : String × Component) ∈ q.row := by
      simp [row, hv]
    obtain ⟨rest, r, hrest, hcond⟩ := hread _ hmem
    exact Reader.ne_empty_of_condition?_id (hq.id v hv) hrest hcond
  · have hmem : (("." ++ v, .className v) : String × Component) ∈ q.row := by
      simp [row, hv]
    obtain ⟨rest, r, hrest, hcond⟩ := hread _ hmem
    exact Reader.isBare_of_condition?_className (hq.classes v hv) hrest hcond

end Description

/-- A class that is read alone is bare. -/
theorem isBare_of_parse_className {v : String} (hv : isPlainName v = true) {x : Selector}
    (h : Selector.parse ("." ++ v) = .ok x) : isBare v = true := by
  let q : Description := ⟨none, none, [v], [], none⟩
  have htext : q.text = "." ++ v := by simp [q, Description.text, Description.tokens]
  have hne : q.text ≠ "" := by
    rw [htext]
    exact Host.append_ne_empty (by decide)
  have hq : q.IsPlain := by
    refine ⟨?_, ?_, List.forall_mem_singleton.2 hv, ?_, ?_⟩ <;> simp [q]
  rw [← htext] at h
  exact (hq.bare_of_parse hne h).2 v (List.mem_singleton_self v)

/-! ## Elements with plain names

  The condition on elements that is asked for where no attribute is in use. -/

namespace Host

variable {E ε : Type} {h : Host E ε} {o : Options} {e : E} {kinds : List Kind} {s : String}

/-- Is the tag a plain name, and are the id and the classes?  Nothing is asked of attributes. -/
def hasPlainNames (h : Host E ε) (e : E) : Bool :=
  isPlainName (h.tagName e) && (h.id e).all isPlainName && (h.classes e).all isPlainName

/-- The names of an element are plain when its tag is, and its id, and each of its classes. -/
theorem hasPlainNames_iff : h.hasPlainNames e = true ↔
    isPlainName (h.tagName e) = true ∧ (∀ v, h.id e = some v → isPlainName v = true) ∧
      ∀ v ∈ h.classes e, isPlainName v = true := by
  rw [hasPlainNames, Bool.and_eq_true, Bool.and_eq_true, Option.all_eq_true, List.all_eq_true,
    and_assoc]

/-- **Without attributes in use, a candidate is the text of a plain description** that says nothing
    of attributes, when the names of the element are plain.  The attributes of the element may be
    anything, as none of them is a token. -/
theorem exists_description_of_names (hplain : h.hasPlainNames e = true) (ho : o.attributes = [])
    (hs : s ∈ (h.tokens o e).candidates o kinds) (hkinds : ∀ k ∈ kinds, k ∈ o.kinds) :
    ∃ q : Description, q.IsPlain ∧ q.IsOf h e ∧ q.attributes = [] ∧ s = q.text := by
  -- a host that shows no attributes has the same tokens
  let h₀ : Host E ε := { h with attributes := fun _ => [] }
  have htokens : h₀.tokens o e = h.tokens o e := by
    rw [tokens, tokens, ho]
    rfl
  have hplain₀ : h₀.isPlain e = true := by
    rw [isPlain, List.all_nil, Bool.and_true]
    exact hplain
  obtain ⟨q, hq, -, htext⟩ := exists_description hkinds (htokens ▸ hs)
  have hattributes : q.attributes = [] :=
    List.eq_nil_iff_forall_not_mem.2 fun a ha => List.not_mem_nil (hq.attributes a ha)
  refine ⟨q, isPlain_of_isOf hq hplain₀, ⟨hq.tag, hq.id, hq.classes, ?_, hq.place⟩, hattributes,
    htext⟩
  rw [hattributes]
  exact fun a ha => absurd ha List.not_mem_nil

/-- Such a candidate is one compound, if it is a selector at all. -/
theorem exists_compound_of_names (hplain : h.hasPlainNames e = true) (ho : o.attributes = [])
    (hs : s ∈ (h.tokens o e).candidates o kinds) (hkinds : ∀ k ∈ kinds, k ∈ o.kinds)
    {x : Selector} (hx : Selector.parse s = .ok x) : ∃ k, x = [[⟨none, k⟩]] := by
  obtain ⟨q, hq, -, -, rfl⟩ := exists_description_of_names hplain ho hs hkinds
  exact ⟨_, (hq.parse_text (ne_empty_of_mem_candidates hs) hx).1⟩

end Host

end Pinpoint
