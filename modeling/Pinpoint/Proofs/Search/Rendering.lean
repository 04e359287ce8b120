/-
  Reading back the selector of a chain.

  1. **Parts**: what a chain means, place by place.  Each segment is read alone, and linked to the
     segment before it as its joint says.
  2. Where every segment reads as one alternative, the text of the chain reads as one alternative,
     too, with these parts (`Chain.parse_render`): the joints are read as links, and a segment
     before a joint is read as it is at the end of a text.
  3. The same parts said without joints (`Chain.linked`): the segments with their places, each
     linked to the one before it by the distance of the two places alone.
  4. Chains whose segments read as one compound each.
-/
import Mathlib.Data.List.Basic
import Pinpoint.Proofs.Selector.Appending
import Pinpoint.Search.Chain

namespace Pinpoint

/-! ## Segments

  A segment is a text that a candidate gave.  Most read as one compound; a segment with a link
  inside is still one alternative, and that is all this module asks for until its last section. -/

/-- What a segment reads as, alone; nothing when it does not read as one alternative. -/
def Segment.reading (s : Segment) : Complex :=
  match Selector.parse s with
  | .ok [x] => x
  | _ => []

/-- A segment that reads as one alternative has that alternative for its reading. -/
theorem Segment.reading_eq {s : Segment} {x : Complex} (h : Selector.parse s = .ok [x]) :
    s.reading = x := by
  rw [reading, h]

/-- Does the segment read as one alternative? -/
def Segment.IsAlternative (s : Segment) : Prop := Selector.parse s = .ok [s.reading]

/-- The form in which a caller has the fact: some alternative is what the parser gives. -/
theorem Segment.isAlternative {s : Segment} {x : Complex} (h : Selector.parse s = .ok [x]) :
    s.IsAlternative := by
  rw [IsAlternative, reading_eq h]
  exact h

namespace Chain

/-! ## Parts

  The places of a chain are written from left to right with a joint in between: nothing at the
  start, ` > ` behind the place before, a space where places are empty.  `partsFrom` follows the
  same recursion, and gives the parts where the printer gives the text. -/

/-- An alternative after a joint. -/
def Joint.relink : Joint → Complex → Complex
  | start, x => x
  | adjacent, x => x.relink .child
  | gap, x => x.relink .descendant

/-- The parts of the remaining places, behind the joint `j`.  An empty place adds no part, and
    widens the joint; a segment adds the parts of its reading, the first of them linked by the
    joint. -/
def partsFrom : Joint → List (Option Segment) → Complex
  | _, [] => []
  | j, none :: rest => partsFrom j.skip rest
  | j, some s :: rest => j.relink s.reading ++ partsFrom .adjacent rest

/-- The parts of a chain. -/
def parts (c : Chain) : Complex := partsFrom .start c.slots

/-- The joint behind some places: what the next segment is linked by. -/
def Joint.after : Joint → List (Option Segment) → Joint
  | j, [] => j
  | j, none :: slots => j.skip.after slots
  | _, some _ :: slots => adjacent.after slots

/-- The parts of places in a row: those of the first ones, and those of the others behind the joint
    that the first ones leave. -/
theorem partsFrom_append (j : Joint) (left right : List (Option Segment)) :
    partsFrom j (left ++ right) = partsFrom j left ++ partsFrom (j.after left) right := by
  induction left generalizing j with
  | nil => rfl
  | cons x left ih =>
    cases x with
    | none => exact ih j.skip
    | some s => rw [List.cons_append, partsFrom, partsFrom, ih, Joint.after, List.append_assoc]

/-! ## Reading after a joint

  The reader has two modes.  At the start of an alternative it reads a compound with no link before
  it (`complex`); behind a part it reads a link first (`laterParts`).  The text of the places behind
  a segment is read in the second mode, and the induction on the places is about that one. -/

section Reading

open Reader

variable {slots : List (Option Segment)} {j : Joint}

/-- Behind a segment, an empty place makes a gap, whatever was between before. -/
theorem skip_of_ne_start (hj : j ≠ .start) : j.skip = .gap := by
  cases j with
  | start => exact absurd rfl hj
  | adjacent => rfl
  | gap => rfl

/-- An empty place does not bring the start of the chain back. -/
theorem skip_ne_start (hj : j ≠ .start) : j.skip ≠ .start := by
  rw [skip_of_ne_start hj]
  simp

/-- The characters written for a segment and the places behind it: the joint, the segment, and the
    rest behind a plain `>`. -/
theorem toList_renderFrom_some (j : Joint) (s : Segment) (slots : List (Option Segment)) :
    (renderFrom j (some s :: slots)).toList =
      j.text.toList ++ (s.toList ++ (renderFrom .adjacent slots).toList) := by
  rw [renderFrom, String.toList_append, String.toList_append, List.append_assoc]

/-- What is written after a segment starts with a space, if anything is written. -/
theorem toList_renderFrom_cases (hj : j ≠ .start) (slots : List (Option Segment)) :
    (renderFrom j slots).toList = [] ∨ ∃ u, (renderFrom j slots).toList = ' ' :: u := by
  induction slots generalizing j with
  | nil => exact Or.inl rfl
  | cons x slots ih =>
    cases x with
    | none => exact ih (skip_ne_start hj)
    | some s =>
      rw [toList_renderFrom_some]
      cases j with
      | start => exact absurd rfl hj
      | adjacent => exact Or.inr ⟨_, rfl⟩
      | gap => exact Or.inr ⟨_, rfl⟩

/-- At the end of the text there are no later parts. -/
theorem laterParts_nil : laterParts [] = .ok ([], []) := laterParts_of_none rfl

/-- A segment and the text of the places behind it.  The reader of the segment stops at the space
    that starts this text, or at the end, and goes on with the later parts from there. -/
theorem complex_segment {s : Segment} (hs : s.IsAlternative) {x : Complex}
    (hrest : laterParts (renderFrom .adjacent slots).toList = .ok (x, [])) :
    complex (s.toList ++ (renderFrom .adjacent slots).toList) = .ok (s.reading ++ x, []) := by
  have hc := (Selector.parse_eq_singleton_iff.1 hs).2
  -- what follows is empty or starts with a space, and the compound ends at both
  rcases toList_renderFrom_cases (j := .adjacent) (by simp) slots with hnil | ⟨u, hu⟩
  · rw [hnil, laterParts_nil] at hrest
    cases hrest
    rw [hnil, List.append_nil, List.append_nil]
    exact hc
  · rw [hu] at hrest ⊢
    rw [complex_append hc, hrest]; rfl

/-- The link of an alternative is the link of its first part, so what stands behind that part does
    not matter. -/
theorem relink_append {x : Complex} (hx : x ≠ []) (y : Complex) (op : Combinator) :
    Complex.relink op (x ++ y) = x.relink op ++ y := by
  cases x with
  | nil => exact absurd rfl hx
  | cons p ps => rfl

/-- A segment that is an alternative has at least one part. -/
theorem reading_ne_nil {s : Segment} (hs : s.IsAlternative) : s.reading ≠ [] := by
  -- an alternative that was read starts with a part
  obtain ⟨c, ps, heq⟩ := complex_eq_cons (Selector.parse_eq_singleton_iff.1 hs).2
  rw [heq]
  exact List.cons_ne_nil _ _

/-- **The places behind a segment are read as their parts.**  By induction on the places: an empty
    one only changes the joint, and a segment is read together with everything behind it. -/
theorem laterParts_renderFrom (hj : j ≠ .start) (hs : ∀ s, some s ∈ slots → s.IsAlternative) :
    laterParts (renderFrom j slots).toList = .ok (partsFrom j slots, []) := by
  induction slots generalizing j with
  | nil => exact laterParts_nil
  | cons x slots ih =>
    have hslots : ∀ s, some s ∈ slots → s.IsAlternative :=
      fun s hmem => hs s (List.mem_cons_of_mem _ hmem)
    cases x with
    | none => exact ih (skip_ne_start hj) hslots
    | some s =>
      have halt := hs s List.mem_cons_self
      have hrest := complex_segment halt (ih (j := .adjacent) (by simp) hslots)
      -- the joint links the first part of the segment; the parts behind it are linked by now
      rw [toList_renderFrom_some, partsFrom]
      cases j with
      | start => exact absurd rfl hj
      | adjacent =>
        rw [Joint.relink, ← relink_append (reading_ne_nil halt)]
        exact laterParts_child hrest
      | gap =>
        rw [Joint.relink, ← relink_append (reading_ne_nil halt)]
        exact laterParts_space hrest

/-- From the start of the chain: the empty places before the first segment write nothing, and the
    first segment is read without a link. -/
theorem complex_renderFrom (hs : ∀ s, some s ∈ slots → s.IsAlternative)
    (hne : ∃ s, some s ∈ slots) :
    complex (renderFrom .start slots).toList = .ok (partsFrom .start slots, []) := by
  induction slots with
  | nil =>
    obtain ⟨s, hmem⟩ := hne
    cases hmem
  | cons x slots ih =>
    have hslots : ∀ s, some s ∈ slots → s.IsAlternative :=
      fun s hmem => hs s (List.mem_cons_of_mem _ hmem)
    cases x with
    | none =>
      obtain ⟨s, hmem⟩ := hne
      exact ih hslots ⟨s, by simpa using hmem⟩
    | some s =>
      rw [toList_renderFrom_some]
      exact complex_segment (hs s List.mem_cons_self)
        (laterParts_renderFrom (by simp) hslots)

/-- The text of the places is not blank where a segment is not.  The joints add characters and take
    none away. -/
theorem not_isBlankText_renderFrom {s : Segment} (hb : Text.isBlankText s = false)
    (hmem : some s ∈ slots) (j : Joint) : Text.isBlankText (renderFrom j slots) = false := by
  induction slots generalizing j with
  | nil => cases hmem
  | cons x slots ih =>
    cases x with
    | none => exact ih (by simpa using hmem) j.skip
    | some s' =>
      rw [Text.isBlankText] at hb ⊢
      rw [toList_renderFrom_some, List.all_append, List.all_append]
      rcases List.mem_cons.1 hmem with heq | hmem
      · cases heq
        rw [hb, Bool.false_and, Bool.and_false]
      · have := ih hmem .adjacent
        rw [Text.isBlankText] at this
        rw [this, Bool.and_false, Bool.and_false]

end Reading

/-! ## Reading a chain

  From lists of places to chains.  Where the statements speak of places they use `get?`, which gives
  nothing beyond the last place as well as at an empty one. -/

/-- A place that is filled, seen in the list of places. -/
theorem get?_eq_some_iff {c : Chain} {i : Nat} {s : Segment} :
    c.get? i = some s ↔ c.slots[i]? = some (some s) := by
  rw [get?, Option.join_eq_some_iff]

/-- The segments of a chain are those in its list of places. -/
theorem exists_get?_iff {c : Chain} {s : Segment} :
    (∃ i, c.get? i = some s) ↔ some s ∈ c.slots := by
  simp only [get?_eq_some_iff, List.mem_iff_getElem?]

/-- A chain that is not empty has a segment at some place. -/
theorem exists_get?_of_isEmpty {c : Chain} (h : c.isEmpty = false) : ∃ i s, c.get? i = some s := by
  rw [isEmpty, List.all_eq_false] at h
  obtain ⟨x, hx, hsome⟩ := h
  cases x with
  | none => exact absurd rfl hsome
  | some s =>
    obtain ⟨i, hi⟩ := exists_get?_iff.2 hx
    exact ⟨i, s, hi⟩

/-- **The text of a chain reads as one alternative, with the parts of the chain**, when every
    segment reads as one alternative and there is a segment. -/
theorem parse_render {c : Chain} (hs : ∀ i s, c.get? i = some s → s.IsAlternative)
    (hne : ∃ i s, c.get? i = some s) : Selector.parse c.render = .ok [c.parts] := by
  have hs' : ∀ s, some s ∈ c.slots → s.IsAlternative := by
    intro s hmem
    obtain ⟨i, hi⟩ := exists_get?_iff.2 hmem
    exact hs i s hi
  obtain ⟨i, s, hi⟩ := hne
  have hmem : some s ∈ c.slots := exists_get?_iff.1 ⟨i, hi⟩
  refine Selector.parse_eq_singleton_iff.2 ⟨?_, complex_renderFrom hs' ⟨s, hmem⟩⟩
  exact not_isBlankText_renderFrom (Selector.parse_eq_singleton_iff.1 (hs i s hi)).1 hmem .start

/-! ## Parts by places

  The joints are how the printer keeps track of empty places.  A reader of the chain wants the
  places instead: which segments there are, and how far each is from the one before it. -/

/-- The segments from place `n` on, each with its place. -/
def presentFrom (n : Nat) (slots : List (Option Segment)) : List (Nat × Segment) :=
  (slots.zipIdx n).filterMap fun (x, i) => x.map (i, ·)

/-- The link of a segment at place `i` to the one before it, at place `p`: directly below it if the
    places are next to each other, and anywhere below it otherwise. -/
def linkBetween (p i : Nat) : Combinator := if i = p + 1 then .child else .descendant

/-- The readings of some segments behind one at place `p`, each linked to the one before it. -/
def linkedAfter (p : Nat) : List (Nat × Segment) → Complex
  | [] => []
  | (i, s) :: later => s.reading.relink (linkBetween p i) ++ linkedAfter i later

/-- The readings of the segments of a chain, in the order of their places: a segment right behind
    another one is directly below it, and one behind empty places is anywhere below. -/
def linked (c : Chain) : Complex :=
  match presentFrom 0 c.slots with
  | [] => []
  | (i, s) :: later => s.reading ++ linkedAfter i later

section Linked

variable {p n : Nat}

/-- An empty place is left out, and counted. -/
theorem presentFrom_none (n : Nat) (slots : List (Option Segment)) :
    presentFrom n (none :: slots) = presentFrom (n + 1) slots := rfl

/-- A filled place is listed with its number. -/
theorem presentFrom_some (n : Nat) (s : Segment) (slots : List (Option Segment)) :
    presentFrom n (some s :: slots) = (n, s) :: presentFrom (n + 1) slots := rfl

/-- The joint between the segment at place `p` and place `n`. -/
def jointBetween (p n : Nat) : Joint := if n = p + 1 then .adjacent else .gap

/-- Relinking by the joint between two places is relinking by their distance. -/
theorem jointBetween_relink (p n : Nat) (x : Complex) :
    (jointBetween p n).relink x = x.relink (linkBetween p n) := by
  unfold jointBetween linkBetween
  split <;> rfl

/-- Passing one more empty place.  The distance was at least one, so the joint is a gap from here
    on. -/
theorem jointBetween_skip (h : p < n) : (jointBetween p n).skip = jointBetween p (n + 1) := by
  have hne : n + 1 ≠ p + 1 := by omega
  unfold jointBetween
  rw [if_neg hne]
  split <;> rfl

/-- Behind a segment, a joint says how far the next place is.  So the parts by the joints are the
    parts by the places: the invariant of the induction is that the joint is the one between the
    last segment and the place that is reached. -/
theorem partsFrom_jointBetween (h : p < n) (slots : List (Option Segment)) :
    partsFrom (jointBetween p n) slots = linkedAfter p (presentFrom n slots) := by
  induction slots generalizing p n with
  | nil => rfl
  | cons x slots ih =>
    cases x with
    | none => rw [partsFrom, presentFrom_none, jointBetween_skip h, ih (by omega)]
    | some s =>
      have hadj : Joint.adjacent = jointBetween n (n + 1) := (if_pos rfl).symm
      rw [partsFrom, presentFrom_some, linkedAfter, jointBetween_relink, hadj, ih (by omega)]

/-- At the start of a chain the first segment is found behind any number of empty places, and has no
    link.  From there on the joints are those between places. -/
theorem partsFrom_start (n : Nat) (slots : List (Option Segment)) :
    partsFrom .start slots =
      match presentFrom n slots with
      | [] => []
      | (i, s) :: later => s.reading ++ linkedAfter i later := by
  induction slots generalizing n with
  | nil => rfl
  | cons x slots ih =>
    cases x with
    | none => exact ih (n + 1)
    | some s =>
      have hadj : Joint.adjacent = jointBetween n (n + 1) := (if_pos rfl).symm
      rw [partsFrom, presentFrom_some, hadj, partsFrom_jointBetween (by omega)]
      rfl

/-- The parts of a chain by the joints, and by the places, are the same. -/
theorem parts_eq_linked (c : Chain) : c.parts = c.linked := partsFrom_start 0 c.slots

end Linked

/-- **A chain is read back segment by segment**: where each segment reads as one alternative, and
    there is a segment, the text of the chain reads as one alternative, too.  Its parts are those of
    the segments in their order; the first part of each later segment is linked as the places say,
    and the first part of all has no link. -/
theorem parse_render_eq_linked (c : Chain) (hne : ∃ i s, c.get? i = some s)
    (hs : ∀ i s, c.get? i = some s → ∃ x, Selector.parse s = .ok [x]) :
    Selector.parse c.render = .ok [c.linked] ∧ ∃ k later, c.linked = ⟨none, k⟩ :: later := by
  have halt : ∀ i s, c.get? i = some s → s.IsAlternative := by
    intro i s hi
    obtain ⟨x, hx⟩ := hs i s hi
    exact Segment.isAlternative hx
  have hparse : Selector.parse c.render = .ok [c.linked] := by
    rw [← parts_eq_linked]
    exact parse_render halt hne
  exact ⟨hparse, Reader.complex_eq_cons (Selector.parse_eq_singleton_iff.1 hparse).2⟩

/-- A chain with an empty place at its start and another one inside, the first segment of two
    compounds. -/
def scatteredChain : Chain := ⟨[none, some "ul > .on", none, some "[title='a > b' i]", some "*"]⟩

/-- The link inside a segment stays; between the segments, one is far and one is near.  The quoted
    `>` of the second segment is text and no link. -/
theorem parse_render_scatteredChain :
    (∃ i s, scatteredChain.get? i = some s) ∧
    (∀ i s, scatteredChain.get? i = some s → ∃ x, Selector.parse s = .ok [x]) ∧
    Selector.parse scatteredChain.render = .ok [scatteredChain.linked] ∧
    scatteredChain.linked =
      [⟨none, [.tag "ul"]⟩, ⟨some .child, [.className "on"]⟩,
       ⟨some .descendant, [.attribute ⟨"title", some (.equals, "a > b"), true⟩]⟩,
       ⟨some .child, [.universal]⟩] := by
  have hne : ∃ i s, scatteredChain.get? i = some s := ⟨4, "*", rfl⟩
  have hs : ∀ i s, scatteredChain.get? i = some s → ∃ x, Selector.parse s = .ok [x] := by
    intro i s hi
    have hmem := exists_get?_iff.1 ⟨i, hi⟩
    simp only [scatteredChain, List.mem_cons, Option.some.injEq, List.not_mem_nil, or_false,
      reduceCtorEq, false_or] at hmem
    rcases hmem with rfl | rfl | rfl
    · exact ⟨[⟨none, [.tag "ul"]⟩, ⟨some .child, [.className "on"]⟩], by decide +kernel⟩
    · exact ⟨[⟨none, [.attribute ⟨"title", some (.equals, "a > b"), true⟩]⟩], by decide +kernel⟩
    · exact ⟨[⟨none, [.universal]⟩], by decide +kernel⟩
  exact ⟨hne, hs, (parse_render_eq_linked scatteredChain hne hs).1, by decide +kernel⟩

/-! ## Chains of compounds

  The chains of a search are of this kind: every segment is the text of a candidate, and a candidate
  reads as one compound. -/

/-- Every segment reads as one compound. -/
def OfCompounds (c : Chain) : Prop :=
  ∀ i s, c.get? i = some s → ∃ p, Selector.parse s = .ok [[p]]

section OfCompounds

variable {c : Chain} {s : Segment}

/-- The reading of a segment in such a chain is one part without a link. -/
theorem OfCompounds.reading (h : c.OfCompounds) (hs : some s ∈ c.slots) :
    ∃ k, s.reading = [⟨none, k⟩] := by
  obtain ⟨i, hi⟩ := exists_get?_iff.2 hs
  obtain ⟨p, hp⟩ := h i s hi
  obtain ⟨k, ps, hk⟩ := Reader.complex_eq_cons (Selector.parse_eq_singleton_iff.1 hp).2
  rw [List.cons.injEq] at hk
  exact ⟨k, by rw [Segment.reading_eq hp, hk.1]⟩

/-- Linked by a joint, it is still one part. -/
theorem OfCompounds.relink (h : c.OfCompounds) (j : Joint) (hs : some s ∈ c.slots) :
    ∃ q, j.relink s.reading = [q] := by
  obtain ⟨k, hread⟩ := h.reading hs
  rw [hread]
  cases j <;> exact ⟨_, rfl⟩

/-- Such a chain reads as its parts. -/
theorem OfCompounds.parse_render (h : c.OfCompounds) (hne : ∃ i s, c.get? i = some s) :
    Selector.parse c.render = .ok [c.parts] := by
  refine Chain.parse_render (fun i s hs => ?_) hne
  obtain ⟨p, hp⟩ := h i s hs
  exact Segment.isAlternative hp

/-- Its text is not empty, since the empty text does not parse. -/
theorem OfCompounds.render_ne_empty (h : c.OfCompounds) (hne : ∃ i s, c.get? i = some s) :
    c.render ≠ "" := by
  intro hempty
  have hparse := h.parse_render hne
  rw [hempty] at hparse
  cases hparse

end OfCompounds

end Chain

end Pinpoint
