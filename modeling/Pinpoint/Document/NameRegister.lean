/-
  A register of names that is asked both ways: the names stand by place, and an index beside them holds
  the place of each name, so that a name is looked up without going through the others.

  A place is a word of 32 bits.  The table of a tree (`NameTable`) holds the same names at the same
  places, as long as the places last.

  1. `NameRegister`, entering a name and reading a place.
  2. `enterAll`: names one after the other, and the places that they get.
-/
import Pinpoint.Document.NameTable
import Std.Data.HashMap

namespace Pinpoint

/-- The names by place, and the place of each name. -/
structure NameRegister where
  names : Array String
  places : Std.HashMap String UInt32

namespace NameRegister

/-! ## Entering and reading -/

/-- The register without names. -/
def empty : NameRegister := ⟨#[], ∅⟩

/-- The place of a name; a new name takes the next place, and both sides are written. -/
def enter (r : NameRegister) (name : String) : UInt32 × NameRegister :=
  match r.places[name]? with
  | some place => (place, r)
  | none =>
    let place := UInt32.ofNat r.names.size
    (place, ⟨r.names.push name, r.places.insert name place⟩)

/-- The name at a place; the empty name where the register has none. -/
def resolve (r : NameRegister) (place : UInt32) : String := (r.names[place.toNat]?).getD ""

/-- The number of names. -/
def size (r : NameRegister) : Nat := r.names.size

/-- True for a register without names. -/
def isEmpty (r : NameRegister) : Bool := r.names.isEmpty

/-! ## Runs -/

/-- Enter names one after the other: the places that they get, and the register after them. -/
def enterAll (r : NameRegister) : List String → List UInt32 × NameRegister
  | [] => ([], r)
  | name :: names =>
    let (place, r) := r.enter name
    let (places, r) := r.enterAll names
    (place :: places, r)

/-- The register before a name is entered: it holds the standard names. -/
def standard : NameRegister := (empty.enterAll NameTable.standardNames).2

end NameRegister

end Pinpoint
