/-
  Sets of characters in patterns.

  A set is a list of ranges of code points in ascending order with gaps between them, and none of
  them holds a surrogate.  `insert` and `compl` keep this form, and all other operations are made of
  the two.

  1. Sets and their members.
  2. Union, complement, and what is made of them.
  3. Case variants.
  4. Classes that have a name of their own.
-/
import Pinpoint.Text.CaseFold
import Pinpoint.Text.Word
import Pinpoint.Text.Blank
import Pinpoint.Text.Ascii

namespace Pinpoint

/-! ## Sets and their members -/

/-- A set of characters. -/
structure CharSet where
  ranges : List (Nat × Nat)
  deriving Repr, DecidableEq

namespace CharSet

/-- Is the character in the set? -/
def contains (s : CharSet) (c : Char) : Bool := Text.inRanges s.ranges c

/-- No character. -/
def none : CharSet := ⟨[]⟩

/-- One character. -/
def single (c : Char) : CharSet := ⟨[(c.toNat, c.toNat)]⟩

/-- Does the set hold no character beyond ASCII? -/
def isAscii (s : CharSet) : Bool := s.ranges.all fun r => r.2 < 0x80

/-! ## Union, complement, and what is made of them -/

/-- Ranges with one more range; it takes in those that it touches. -/
def insertRange : Nat → Nat → List (Nat × Nat) → List (Nat × Nat)
  | first, last, [] => [(first, last)]
  | first, last, (a, b) :: rest =>
    if last + 1 < a then (first, last) :: (a, b) :: rest
    else if b + 1 < first then (a, b) :: insertRange first last rest
    else insertRange (min a first) (max b last) rest

/-- The gaps between ranges, from a code point on. -/
def gaps : Nat → List (Nat × Nat) → List (Nat × Nat)
  | next, [] => if next < 0x110000 then [(next, 0x10ffff)] else []
  | next, (a, b) :: rest => (if next < a then [(next, a - 1)] else []) ++ gaps (b + 1) rest

/-- All characters that are not in the set. -/
def compl (s : CharSet) : CharSet := ⟨gaps 0 (insertRange 0xd800 0xdfff s.ranges)⟩

/-- Every character. -/
def all : CharSet := compl none

/-- The characters of both sets. -/
def union (a b : CharSet) : CharSet :=
  ⟨b.ranges.foldl (fun ranges r => insertRange r.1 r.2 ranges) a.ranges⟩

/-- The characters that the sets share. -/
def inter (a b : CharSet) : CharSet := compl (union (compl a) (compl b))

/-- The characters of the first set that are not in the second. -/
def diff (a b : CharSet) : CharSet := inter a (compl b)

/-- The characters of exactly one of the sets. -/
def symmDiff (a b : CharSet) : CharSet := union (diff a b) (diff b a)

/-- The set, or its complement. -/
def complIf (negated : Bool) (s : CharSet) : CharSet := if negated then compl s else s

/-- The characters of some ranges, which may come in any order and hold surrogates. -/
def ofRanges (ranges : List (Nat × Nat)) : CharSet := compl (compl (union none ⟨ranges⟩))

/-- The characters from one to another. -/
def range (first last : Char) : CharSet := ofRanges [(first.toNat, last.toNat)]

/-- Some characters. -/
def ofList (cs : List Char) : CharSet := ⟨cs.foldl (fun r c => insertRange c.toNat c.toNat r) []⟩

/-! ## Case variants -/

/-- The code points in some ranges that stand for a letter of the set, whatever its case. -/
def representatives (s : CharSet) : CharSet :=
  Text.foldPairs.foldl
    (fun found p =>
      if s.contains (Char.ofNat p.1) || s.contains (Char.ofNat p.2) then
        ⟨insertRange p.2 p.2 found.ranges⟩
      else found)
    none

/-- The set together with all case variants of its members. -/
def caseless (s : CharSet) : CharSet :=
  let found := representatives s
  Text.foldPairs.foldl
    (fun s p =>
      if found.contains (Char.ofNat p.2) then
        ⟨insertRange p.1 p.1 (insertRange p.2 p.2 s.ranges)⟩
      else s)
    s

/-- The set together with the other case of its ASCII letters. -/
def caselessAscii (s : CharSet) : CharSet :=
  "abcdefghijklmnopqrstuvwxyz".toList.foldl
    (fun s c =>
      if s.contains c || s.contains c.toUpper then union s (ofList [c, c.toUpper]) else s)
    s

/-! ## Classes that have a name of their own -/

/-- Decimal digits of every script, or of ASCII. -/
def digits (ascii : Bool) : CharSet := if ascii then ⟨[(0x30, 0x39)]⟩ else ⟨Text.digitRanges⟩

/-- White space of every script, or of ASCII. -/
def spaces (ascii : Bool) : CharSet :=
  if ascii then ⟨[(0x9, 0xd), (0x20, 0x20)]⟩ else ⟨Text.blankRanges⟩

/-- Word characters of every script, or of ASCII. -/
def wordChars (ascii : Bool) : CharSet :=
  if ascii then ⟨[(0x30, 0x39), (0x41, 0x5a), (0x5f, 0x5f), (0x61, 0x7a)]⟩ else ⟨Text.wordRanges⟩

/-- The ASCII classes that have a name between colons. -/
def asciiClass? (name : List Char) : Option CharSet :=
  (asciiClasses.find? fun c => c.1.toList = name).map fun c => ⟨c.2⟩
where
  /-- Names and members. -/
  asciiClasses : List (String × List (Nat × Nat)) :=
    [("alnum", [(0x30, 0x39), (0x41, 0x5a), (0x61, 0x7a)]),
     ("alpha", [(0x41, 0x5a), (0x61, 0x7a)]),
     ("ascii", [(0x0, 0x7f)]),
     ("blank", [(0x9, 0x9), (0x20, 0x20)]),
     ("cntrl", [(0x0, 0x1f), (0x7f, 0x7f)]),
     ("digit", [(0x30, 0x39)]),
     ("graph", [(0x21, 0x7e)]),
     ("lower", [(0x61, 0x7a)]),
     ("print", [(0x20, 0x7e)]),
     ("punct", [(0x21, 0x2f), (0x3a, 0x40), (0x5b, 0x60), (0x7b, 0x7e)]),
     ("space", [(0x9, 0xd), (0x20, 0x20)]),
     ("upper", [(0x41, 0x5a)]),
     ("word", [(0x30, 0x39), (0x41, 0x5a), (0x5f, 0x5f), (0x61, 0x7a)]),
     ("xdigit", [(0x30, 0x39), (0x41, 0x46), (0x61, 0x66)])]

example : (compl ⟨[(0x61, 0x7a)]⟩).contains 'b' = false := by decide +kernel
example : (ofRanges [(0x62, 0x63), (0x61, 0x61)]).ranges = [(0x61, 0x63)] := by decide +kernel
example : (diff ⟨[(0x61, 0x7a)]⟩ (single 'c')).ranges = [(0x61, 0x62), (0x64, 0x7a)] := by
  decide +kernel

end CharSet

end Pinpoint
