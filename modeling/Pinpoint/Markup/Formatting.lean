/-
  Formatting elements, which may overlap: `<b>1<i>2</b>3</i>` means that 1 and 2 are bold, 2 and 3
  in italics.

  A formatting element that ends with the paragraph around it starts again in the next one, and an
  end tag that crosses other elements takes its element apart.  For this the formatting in force is
  kept in a list of its own, beside the stack.

  1. The list: the latest entry of a name, entries added and removed, markers.
  2. Starting a formatting element, and starting again what has ended by accident.
  3. The end tag of a formatting element.
-/
import Pinpoint.Markup.Build

namespace Pinpoint.Markup

/-! ## The list -/

namespace Formatting

/-- The element of an entry. -/
def node? : Formatting → Option Nat
  | marker => none
  | element i _ => some i

/-- The entries up to the last marker. -/
def sinceMarker (entries : List Formatting) : List Formatting := entries.takeWhile (· ≠ marker)

/-- The entries before the last marker. -/
def beforeMarker (entries : List Formatting) : List Formatting :=
  (entries.dropWhile (· ≠ marker)).tail

/-- The latest element of this name since the last marker, and its tag. -/
def latest? (name : String) (entries : List Formatting) : Option (Nat × Tag) :=
  (sinceMarker entries).findSome? fun
    | element i tag => if tag.name = name then some (i, tag) else none
    | marker => none

/-- The entries without that of an element. -/
def without (i : Nat) (entries : List Formatting) : List Formatting :=
  entries.filter fun e => e.node? ≠ some i

/-- Have two tags the same name and the same attributes, in any order? -/
def isAlike (a b : Tag) : Bool :=
  a.name = b.name && a.attributes.length = b.attributes.length &&
    a.attributes.all b.attributes.contains

/-- At most two elements like the one to come are in force since the last marker: of three or more,
    the oldest is forgotten. -/
def makeRoom (tag : Tag) (entries : List Formatting) : List Formatting :=
  let alike := (sinceMarker entries).filterMap fun
    | element i other => if isAlike tag other then some i else none
    | marker => none
  if alike.length < 3 then entries
  else
    match alike.getLast? with
    | some i => without i entries
    | none => entries

end Formatting

namespace Draft

/-- Is the element in the list? -/
def formats (d : Draft) (i : Nat) : Bool := d.formatting.any fun e => e.node? = some i

/-- The tag of an element in the list. -/
def formattingTag? (d : Draft) (i : Nat) : Option Tag :=
  d.formatting.findSome? fun
    | .element j tag => if j = i then some tag else none
    | .marker => none

end Draft

namespace Build

/-- Keep the formatting so far out of what comes. -/
def addMarker : Build Unit := modify fun d => { d with formatting := .marker :: d.formatting }

/-- Forget the formatting since the last marker, and the marker. -/
def clearToMarker : Build Unit :=
  modify fun d => { d with formatting := Formatting.beforeMarker d.formatting }

/-- Take an element off the list. -/
def forget (i : Nat) : Build Unit :=
  modify fun d => { d with formatting := Formatting.without i d.formatting }

/-! ## Starting -/

/-- Step into a formatting element, which is in force from now on. -/
def openFormatting (t : Tag) : Build Unit := do
  let i ← openElement .html t.name t.attributes
  modify fun d => { d with formatting := .element i t :: d.formatting }

/-- Start again the formatting that has ended by accident: the entries after the last one that is a
    marker or still open, the oldest first. -/
def reopenFormatting : Build Unit := do
  let d ← get
  let isEnded (e : Formatting) : Bool := e.node?.any fun i => !d.stack.contains i
  let ended := d.formatting.takeWhile isEnded
  set { d with formatting := d.formatting.drop ended.length }
  ended.reverse.forM fun
    | .element _ tag => openFormatting tag
    | .marker => pure ()

/-- The start tag of a formatting element. -/
def startFormatting (t : Tag) : Build Unit := do
  modify fun d => { d with formatting := Formatting.makeRoom t d.formatting }
  openFormatting t

/-! ## The end tag of a formatting element -/

/-- Move a node, with all that hangs below it. -/
def move (i : Nat) (place : Draft → Draft.Place) : Build Unit :=
  modify fun d =>
    let d := d.detach i
    d.attach i (place d)

/-- An element as a start tag makes it, without a place. -/
def newElement (t : Tag) : Build Nat := modifyGet (·.addLoose (.element .html t.name t.attributes))

/-- What is known on the way out from a block to the formatting element that ends. -/
structure Climb where
  /-- How many elements have been passed. -/
  passed : Nat
  /-- The outermost node that moves. -/
  last : Nat
  /-- The innermost copy that has been made. -/
  firstCopy : Option Nat
  /-- What stays on the stack, the innermost first. -/
  kept : List Nat

/-- Pass one element: up to the third, formatting elements are replaced by a copy, which takes what
    has been gathered so far; all others leave the stack. -/
def climb (c : Climb) (i : Nat) : Build Climb := do
  let d ← get
  match if c.passed < 3 then d.formattingTag? i else none with
  | some tag =>
    let copy ← newElement tag
    modify fun d =>
      { d with
        formatting := d.formatting.map fun e =>
          if e.node? = some i then .element copy tag else e }
    move c.last fun _ => .lastIn copy
    return ⟨c.passed + 1, copy, c.firstCopy <|> some copy, c.kept ++ [copy]⟩
  | none =>
    forget i
    return { c with passed := c.passed + 1 }

/-- Take a formatting element apart around the outermost block inside it.  The block moves out of
    the element, and a copy of the element moves into the block, around all of its children. -/
def splitAround (i : Nat) (tag : Tag) (inner : List Nat) (block : Nat) (between below : List Nat) :
    Build Unit := do
  let c ← between.foldlM climb ⟨0, block, none, []⟩
  move c.last fun d => d.placeIn (below.head?.getD 0)
  let copy ← newElement tag
  modify (·.moveChildren block copy)
  move copy fun _ => .lastIn block
  modify fun d =>
    { d with
      formatting :=
        match c.firstCopy with
        | none => d.formatting.map fun e => if e.node? = some i then .element copy tag else e
        | some first =>
          Formatting.without i <| d.formatting.flatMap fun e =>
            if e.node? = some first then [.element copy tag, e] else [e]
      stack := inner ++ [copy, block] ++ c.kept ++ below }

/-- End the latest formatting element of a name, as often as blocks are found inside, but at most
    `rounds` times. -/
def endRounds (name : String) : Nat → Build Unit
  | 0 => pure ()
  | rounds + 1 => do
    let d ← get
    match Formatting.latest? name d.formatting with
    | none => endOther name
    | some (i, tag) =>
      if !d.stack.contains i then forget i
      else if d.seesInScope (· = i) then
        let inside := d.stack.takeWhile (· ≠ i)
        let below := (d.stack.dropWhile (· ≠ i)).tail
        let between := inside.reverse.takeWhile fun j => !d.isSpecial j
        match inside.reverse.drop between.length with
        | [] =>
          set { d with stack := below }
          forget i
        | block :: inner =>
          splitAround i tag inner.reverse block between.reverse below
          endRounds name rounds

/-- The end tag of a formatting element. -/
def endFormatting (name : String) : Build Unit := do
  let d ← get
  if d.isCurrent [name] && !d.formats d.current then pop
  else endRounds name 8

/-- A link inside a link ends the one around. -/
def endLink : Build Unit := do
  match Formatting.latest? "a" (← get).formatting with
  | none => pure ()
  | some (i, _) =>
    endFormatting "a"
    forget i
    leaveElement i

end Build

end Pinpoint.Markup
