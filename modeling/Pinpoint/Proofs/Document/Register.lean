/-
  The two sides of a register of names.

  1. The sides are **inverse** to each other: a name has a place in the index exactly when it stands at
     this place.  Entering a name keeps this as long as the next place is a word (`Inverse.enter`).
  2. **What a run records** (`Records`): the names that were entered, each once, and places that read
     back as them.  The step is one more name; a place once given is never read otherwise.
  3. The table of a tree goes through all names where the register asks its index, and both find the
     same place.
  4. **So names and places stand for each other** (`places_and_names`), for any run with fewer distinct
     names than there are words.
-/
import Mathlib.Data.Finset.Card
import Pinpoint.Document.NameRegister
import Pinpoint.Proofs.Document.Names

namespace Pinpoint

namespace NameRegister

variable {r : NameRegister} {name : String} {place : UInt32} {calls : List String}
  {given : List UInt32} {t : NameTable}

/-! ## Entering one name

  The register holds its names in a list and, for each of them, the place in an index.  Only the
  index is asked when a name is entered, and only the list when a place is read. -/

/-- A name that is there is answered with its place, and nothing changes. -/
theorem enter_of_some (h : r.places[name]? = some place) : r.enter name = (place, r) := by
  rw [enter, h]

/-- A new name goes to the end, and its place is the size so far. -/
theorem enter_of_none (h : r.places[name]? = none) :
    r.enter name = (UInt32.ofNat r.size,
      ⟨r.names.push name, r.places.insert name (UInt32.ofNat r.size)⟩) := by
  rw [enter, h]
  rfl

/-- The index holds a place for a name exactly when the name stands there.  Both sides are written
    when a name is entered, and neither is looked at in full; that they agree is an invariant. -/
def Inverse (r : NameRegister) : Prop :=
  ∀ (name : String) (place : UInt32),
    r.places[name]? = some place ↔ r.names[place.toNat]? = some name

/-- A name without a place stands nowhere, as long as every place is a word. -/
theorem Inverse.not_mem (h : r.Inverse) (hsize : r.size < UInt32.size)
    (hnone : r.places[name]? = none) : name ∉ r.names.toList := by
  intro hmem
  obtain ⟨i, hi, hname⟩ := List.mem_iff_getElem.1 hmem
  have hi : i < r.size := hi
  have hword : (UInt32.ofNat i).toNat = i := UInt32.toNat_ofNat_of_lt' (by omega)
  have hthere : r.names[(UInt32.ofNat i).toNat]? = some name := by
    rw [hword, Array.getElem?_eq_getElem hi]
    exact congrArg some hname
  rw [(h name _).2 hthere] at hnone
  cases hnone

/-- **The step**: both sides are written alike.  The new place is a word that no name has yet, which
    is where the bound on the size is needed: at the next size the place would be 0 again. -/
theorem Inverse.enter (h : r.Inverse) (hsize : r.size < UInt32.size) (name : String) :
    (r.enter name).2.Inverse := by
  cases hfind : r.places[name]? with
  | some place =>
    rw [enter_of_some hfind]
    exact h
  | none =>
    rw [enter_of_none hfind]
    have hword : (UInt32.ofNat r.size).toNat = r.size := UInt32.toNat_ofNat_of_lt' hsize
    intro name' place'
    show (r.places.insert name (UInt32.ofNat r.size))[name']? = some place' ↔
      (r.names.push name)[place'.toNat]? = some name'
    rw [Std.HashMap.getElem?_insert, Array.getElem?_push]
    by_cases hp : place'.toNat = r.names.size
    · -- the new place: the new name stands there and no other
      have hplace : place' = UInt32.ofNat r.size := UInt32.toNat_inj.1 (hp.trans hword.symm)
      rw [if_pos hp]
      by_cases hn : name = name'
      · rw [if_pos (beq_iff_eq.2 hn), hplace, hn]
        exact ⟨fun _ => rfl, fun _ => rfl⟩
      · rw [if_neg fun heq => hn (beq_iff_eq.1 heq), h name' place',
          Array.getElem?_eq_none (Nat.le_of_eq hp.symm)]
        constructor
        · intro hnone
          cases hnone
        · intro heq
          exact absurd (Option.some.inj heq) hn
    · -- any other place: what stood there stands there, and the new name stood nowhere
      rw [if_neg hp]
      by_cases hn : name = name'
      · rw [if_pos (beq_iff_eq.2 hn), ← h name' place', ← hn, hfind]
        constructor
        · intro heq
          rw [← Option.some.inj heq, hword] at hp
          exact absurd rfl hp
        · intro hnone
          cases hnone
      · rw [if_neg fun heq => hn (beq_iff_eq.1 heq)]
        exact h name' place'

/-- Names are only added, at the end. -/
theorem names_prefix_enter (r : NameRegister) (name : String) :
    r.names.toList <+: (r.enter name).2.names.toList := by
  cases hfind : r.places[name]? with
  | some place => exact (enter_of_some hfind).symm ▸ List.prefix_refl _
  | none =>
    rw [enter_of_none hfind]
    show r.names.toList <+: (r.names.push name).toList
    rw [Array.toList_push]
    exact List.prefix_append _ _

/-- A place reads as the name that stands there. -/
theorem resolve_of_getElem? (h : r.names[place.toNat]? = some name) : r.resolve place = name := by
  rw [resolve, h]
  rfl

/-- At a place below the size there stands a name. -/
theorem getElem?_of_lt (h : place.toNat < r.size) :
    r.names[place.toNat]? = some (r.resolve place) := by
  have hget : r.names[place.toNat]? = some r.names[place.toNat] := Array.getElem?_eq_getElem h
  rw [resolve, hget]
  rfl

/-- A place that the register has keeps its name while names are added. -/
theorem resolve_of_prefix {r' : NameRegister} (h : r.names.toList <+: r'.names.toList)
    (hlt : place.toNat < r.size) : r'.resolve place = r.resolve place := by
  apply resolve_of_getElem?
  obtain ⟨more, hmore⟩ := h
  have hlt' : place.toNat < r.names.toList.length := hlt
  rw [← Array.getElem?_toList, ← hmore, List.getElem?_append_left hlt', Array.getElem?_toList]
  exact getElem?_of_lt hlt

/-! ## Runs

  Names are entered one after another, and each call is answered with a place. -/

/-- A run starts with its first call. -/
theorem enterAll_cons (r : NameRegister) (name : String) (names : List String) :
    r.enterAll (name :: names) =
      ((r.enter name).1 :: ((r.enter name).2.enterAll names).1,
        ((r.enter name).2.enterAll names).2) := rfl

/-- A run over two lists is a run over the first and then one over the second. -/
theorem enterAll_append (r : NameRegister) (names more : List String) :
    r.enterAll (names ++ more) =
      ((r.enterAll names).1 ++ ((r.enterAll names).2.enterAll more).1,
        ((r.enterAll names).2.enterAll more).2) := by
  induction names generalizing r with
  | nil => rfl
  | cons name names ih =>
    rw [List.cons_append, enterAll_cons, ih, enterAll_cons]
    rfl

/-- A run only adds names, at the end. -/
theorem names_prefix_enterAll (r : NameRegister) (names : List String) :
    r.names.toList <+: (r.enterAll names).2.names.toList := by
  induction names generalizing r with
  | nil => exact List.prefix_refl _
  | cons name names ih => exact (names_prefix_enter r name).trans (ih _)

/-- What the register holds after `calls` have been entered and the places `given` were answered:
    the two sides agree, every name called is there once and no other, and the places that were
    given read as the calls, one by one. -/
structure Records (r : NameRegister) (calls : List String) (given : List UInt32) : Prop where
  inverse : r.Inverse
  nodup : r.names.toList.Nodup
  mem_iff : ∀ name, name ∈ r.names.toList ↔ name ∈ calls
  lt_size : ∀ place ∈ given, place.toNat < r.size
  reads : given.map r.resolve = calls

/-- Fewer calls, fewer names. -/
theorem card_lt_of_concat {n : Nat} (h : (calls ++ [name]).toFinset.card < n) :
    calls.toFinset.card < n := by
  refine Nat.lt_of_le_of_lt (Finset.card_le_card ?_) h
  intro x hx
  rw [List.mem_toFinset] at hx ⊢
  exact List.mem_append_left _ hx

namespace Records

/-- Nothing is recorded at the start. -/
theorem empty : Records NameRegister.empty [] [] where
  inverse name place := by
    constructor
    · intro h
      have hnone : NameRegister.empty.places[name]? = none := Std.HashMap.getElem?_empty
      rw [hnone] at h
      cases h
    · intro h
      cases h
  nodup := List.nodup_nil
  mem_iff _ := Iff.rfl
  lt_size := List.forall_mem_nil _
  reads := rfl

/-- There are as many places as distinct names have been entered. -/
theorem size_eq (h : r.Records calls given) : r.size = calls.toFinset.card := by
  have hsame : r.names.toList.toFinset = calls.toFinset := by
    ext name
    rw [List.mem_toFinset, List.mem_toFinset]
    exact h.mem_iff name
  rw [← hsame, List.toFinset_card_of_nodup h.nodup]
  rfl

/-- **The step**: one more name is entered. -/
theorem enter (h : r.Records calls given) (hsize : r.size < UInt32.size) (name : String) :
    (r.enter name).2.Records (calls ++ [name]) (given ++ [(r.enter name).1]) := by
  have hmore := names_prefix_enter r name
  have hinverse := h.inverse.enter hsize name
  -- the place answered is there, and the name stands at it
  have hthere : (r.enter name).2.names[(r.enter name).1.toNat]? = some name := by
    cases hfind : r.places[name]? with
    | some place =>
      rw [enter_of_some hfind]
      exact (h.inverse name place).1 hfind
    | none =>
      have hword : (UInt32.ofNat r.size).toNat = r.size := UInt32.toNat_ofNat_of_lt' hsize
      rw [enter_of_none hfind]
      show (r.names.push name)[(UInt32.ofNat r.size).toNat]? = some name
      rw [hword]
      exact Array.getElem?_push_size
  refine ⟨hinverse, ?_, fun name' => ?_, fun place hplace => ?_, ?_⟩
  · cases hfind : r.places[name]? with
    | some place =>
      rw [enter_of_some hfind]
      exact h.nodup
    | none =>
      rw [enter_of_none hfind, Array.toList_push, ← List.concat_eq_append]
      exact h.nodup.concat (h.inverse.not_mem hsize hfind)
  · rw [List.mem_append, List.mem_singleton]
    cases hfind : r.places[name]? with
    | some place =>
      rw [enter_of_some hfind, h.mem_iff]
      constructor
      · exact Or.inl
      · rintro (hmem | rfl)
        · exact hmem
        · have hat := (h.inverse name' place).1 hfind
          rw [← Array.getElem?_toList] at hat
          exact (h.mem_iff name').1 (List.mem_of_getElem? hat)
    | none =>
      rw [enter_of_none hfind, Array.toList_push, List.mem_append, List.mem_singleton, h.mem_iff]
  · rcases List.mem_append.1 hplace with hold | hnew
    · exact Nat.lt_of_lt_of_le (h.lt_size place hold) hmore.length_le
    · rw [List.mem_singleton.1 hnew]
      exact (Array.getElem?_eq_some_iff.1 hthere).1
  · rw [List.map_append, List.map_singleton, resolve_of_getElem? hthere,
      List.map_congr_left fun place hplace => resolve_of_prefix hmore (h.lt_size place hplace),
      h.reads]

/-- **The run**, from nothing: what is entered is recorded.  By induction from the last call; there
    are no more places than distinct names, so the next place is a word. -/
theorem enterAll (calls : List String) (h : calls.toFinset.card < UInt32.size) :
    (NameRegister.empty.enterAll calls).2.Records calls (NameRegister.empty.enterAll calls).1 := by
  induction calls using List.reverseRecOn with
  | nil => exact empty
  | append_singleton calls name ih =>
    have hfew := card_lt_of_concat h
    have ih := ih hfew
    rw [enterAll_append]
    exact ih.enter (ih.size_eq ▸ hfew) name

/-! ## Names and places

  What the record of a run says, in the words of its callers. -/

/-- Two places with one name are one place. -/
theorem resolve_inj (h : r.Records calls given) {place' : UInt32} (hp : place.toNat < r.size)
    (hp' : place'.toNat < r.size) : r.resolve place = r.resolve place' ↔ place = place' := by
  constructor
  · intro heq
    have hat := (h.inverse _ place).2 (getElem?_of_lt hp)
    rw [heq, (h.inverse _ place').2 (getElem?_of_lt hp')] at hat
    exact (Option.some.inj hat).symm
  · rintro rfl
    rfl

/-- A call and its answer: the place is in the register and reads as the name. -/
theorem of_mem_zip (h : r.Records calls given) {p : String × UInt32} (hp : p ∈ calls.zip given) :
    p.2.toNat < r.size ∧ r.resolve p.2 = p.1 := by
  rw [← h.reads] at hp
  obtain ⟨i, hi, hget⟩ := List.mem_iff_getElem.1 hp
  rw [List.getElem_zip, List.getElem_map] at hget
  rw [← hget]
  exact ⟨h.lt_size _ (List.getElem_mem _), rfl⟩

/-- Every place in the register has been answered to a call: the name that stands there was called,
    and was answered with a place that reads as it. -/
theorem mem_given_iff (h : r.Records calls given) : place ∈ given ↔ place.toNat < r.size := by
  constructor
  · exact h.lt_size place
  · intro hlt
    have hmem : r.resolve place ∈ calls := by
      have hat := getElem?_of_lt hlt
      rw [← Array.getElem?_toList] at hat
      exact (h.mem_iff _).1 (List.mem_of_getElem? hat)
    rw [← h.reads] at hmem
    obtain ⟨place', hgiven, heq⟩ := List.mem_map.1 hmem
    rw [← (h.resolve_inj (h.lt_size place' hgiven) hlt).1 heq]
    exact hgiven

/-! ## The table of a tree

  The trees of this library keep their names in a plain list.  It is searched from the front, and
  finds the same places. -/

/-- A table with the same names finds a name at the place that the index holds.  The table looks for
    the first place with this name, and there is one only. -/
theorem find?_eq (h : r.Records calls given) (ht : t.names = r.names.toList)
    (hat : r.names[place.toNat]? = some name) : t.find? name = some place.toNat := by
  rw [← Array.getElem?_toList] at hat
  obtain ⟨hlt, hname⟩ := List.getElem?_eq_some_iff.1 hat
  rw [NameTable.find?, ht, List.idxOf?_eq_some_iff]
  refine ⟨hlt, hname, fun j hj heq => ?_⟩
  have hsame : j = place.toNat := h.nodup.getElem_inj_iff.1 (heq.trans hname.symm)
  omega

/-- Entering a name in the table of a tree adds it in the same cases, at the same place. -/
theorem names_intern (h : r.Records calls given) (hsize : r.size < UInt32.size)
    (ht : t.names = r.names.toList) (name : String) :
    (t.intern name).2.names = (r.enter name).2.names.toList := by
  cases hfind : r.places[name]? with
  | some place =>
    rw [enter_of_some hfind, NameTable.intern, h.find?_eq ht ((h.inverse name place).1 hfind)]
    exact ht
  | none =>
    have hnone : t.find? name = none := by
      rw [NameTable.find?, ht, List.idxOf?_eq_none_iff]
      exact h.inverse.not_mem hsize hfind
    rw [enter_of_none hfind, NameTable.intern, hnone, Array.toList_push, ht]

end Records

/-- **The table of a tree holds the same names**, after the same calls. -/
theorem names_foldl_intern (calls : List String) (h : calls.toFinset.card < UInt32.size) :
    (calls.foldl (fun t name => (t.intern name).2) (⟨[]⟩ : NameTable)).names =
      (empty.enterAll calls).2.names.toList := by
  induction calls using List.reverseRecOn with
  | nil => rfl
  | append_singleton calls name ih =>
    have hfew := card_lt_of_concat h
    have hrecords := Records.enterAll calls hfew
    rw [List.foldl_append, enterAll_append]
    exact hrecords.names_intern (hrecords.size_eq ▸ hfew) (ih hfew) name

/-! ## Names and places stand for each other

  The theorem, with the standard names entered first. -/

/-- **Names and places stand for each other**, after any names have been entered behind the standard
    ones, as long as there are fewer distinct names than words.

    Every call has been answered with a place that reads back as the name, still at the end.  Two calls
    have the same answer exactly when they have the same name.  The places are those below the size,
    which is the number of distinct names.  No later call changes what a place reads as, and a place
    that has not been given reads as the empty name.  The table of a tree holds the same names, and
    finds each at the same place. -/
theorem places_and_names (names : List String)
    (h : (NameTable.standardNames ++ names).toFinset.card < UInt32.size) :
    let calls := NameTable.standardNames ++ names
    let given := (empty.enterAll calls).1
    let r := (standard.enterAll names).2
    let table := names.foldl (fun t name => (t.intern name).2) NameTable.standard
    given.map r.resolve = calls ∧
    (∀ p ∈ calls.zip given, ∀ q ∈ calls.zip given, p.2 = q.2 ↔ p.1 = q.1) ∧
    (∀ place, place ∈ given ↔ place.toNat < r.size) ∧
    r.size = calls.toFinset.card ∧
    (∀ earlier later, names = earlier ++ later → ∀ place : UInt32,
      place.toNat < (standard.enterAll earlier).2.size →
        r.resolve place = (standard.enterAll earlier).2.resolve place) ∧
    (∀ place : UInt32, r.size ≤ place.toNat → r.resolve place = "") ∧
    table.names = r.names.toList ∧
    ∀ p ∈ calls.zip given, table.find? p.1 = some p.2.toNat := by
  intro calls given r table
  -- the register starts with the standard names, so a run behind them is a run from nothing
  have hr : r = (empty.enterAll calls).2 := by
    show (standard.enterAll names).2 = (empty.enterAll (NameTable.standardNames ++ names)).2
    rw [enterAll_append]
    rfl
  have hrecords : r.Records calls given := hr ▸ Records.enterAll calls h
  have htable : table.names = r.names.toList := by
    have hstandard : NameTable.standard =
        NameTable.standardNames.foldl (fun t name => (t.intern name).2) (⟨[]⟩ : NameTable) := by
      decide
    rw [hr, ← names_foldl_intern calls h]
    show (names.foldl _ NameTable.standard).names = _
    rw [hstandard, ← List.foldl_append]
  refine ⟨hrecords.reads, fun p hp q hq => ?_, fun place => hrecords.mem_given_iff,
    hrecords.size_eq, fun earlier later hsplit place hlt => ?_, fun place hle => ?_, htable,
    fun p hp => ?_⟩
  · obtain ⟨hplt, hpname⟩ := hrecords.of_mem_zip hp
    obtain ⟨hqlt, hqname⟩ := hrecords.of_mem_zip hq
    rw [← hpname, ← hqname]
    exact (hrecords.resolve_inj hplt hqlt).symm
  · have hlater : r = ((standard.enterAll earlier).2.enterAll later).2 := by
      show (standard.enterAll names).2 = _
      rw [hsplit, enterAll_append]
    rw [hlater]
    exact resolve_of_prefix (names_prefix_enterAll _ later) hlt
  · rw [resolve, Array.getElem?_eq_none hle]
    rfl
  · obtain ⟨hlt, hname⟩ := hrecords.of_mem_zip hp
    have hat := getElem?_of_lt hlt
    rw [hname] at hat
    exact hrecords.find?_eq htable hat

/-- Two names that are new, one of them entered twice, and one that only differs in case. -/
def fewNames : List String := ["data-x", "class", "Class", "data-x"]

/-- They take two more places, and the next place is free. -/
theorem places_and_names_few :
    (NameTable.standardNames ++ fewNames).toFinset.card < UInt32.size ∧
    (empty.enterAll (NameTable.standardNames ++ fewNames)).1.map
        (standard.enterAll fewNames).2.resolve = NameTable.standardNames ++ fewNames ∧
    (standard.enterAll fewNames).2.size = 28 ∧
    (standard.enterAll fewNames).2.resolve 28 = "" := by
  have hcard : (NameTable.standardNames ++ fewNames).toFinset.card = 28 := by decide +kernel
  have hfew : (NameTable.standardNames ++ fewNames).toFinset.card < UInt32.size := by
    rw [hcard]
    decide
  obtain ⟨hreads, -, -, hsize, -, hfree, -, -⟩ := places_and_names fewNames hfew
  rw [hcard] at hsize
  exact ⟨hfew, hreads, hsize, hfree 28 (Nat.le_of_eq hsize)⟩

end NameRegister

end Pinpoint
