/-
  The steps of which building consists: adding nodes, and stepping out of elements.

  1. Adding nodes.
  2. Stepping out of elements.
  3. Going on with another part of the document.
-/
import Pinpoint.Markup.Scope

namespace Pinpoint.Markup.Build

/-! ## Adding nodes -/

/-- Add a node below another. -/
def addBelow (parent : Nat) (content : DraftContent) : Build Nat :=
  modifyGet fun d =>
    let (i, d) := d.addLoose content
    (i, d.attach i (.lastIn parent))

/-- Put a node into the innermost element. -/
def put (content : DraftContent) : Build Nat :=
  modifyGet fun d =>
    let (i, d) := d.addLoose content
    (i, d.attach i (d.placeIn d.current))

/-- Put an element into the innermost one and step into it. -/
def openElement (v : Vocabulary) (name : String) (attributes : List (String × String)) : Build Nat := do
  let i ← put (.element v name attributes)
  modify fun d => { d with stack := i :: d.stack }
  return i

/-- Step into an element of a start tag. -/
def openTag (t : Tag) : Build Unit := do
  let _ ← openElement .html t.name t.attributes

/-- Step into an element that nobody wrote. -/
def openImplied (name : String) : Build Unit := do
  let _ ← openElement .html name []

/-- Add an element that takes no children. -/
def addVoid (t : Tag) : Build Unit := do
  let _ ← put (.element .html t.name t.attributes)

/-- Put text into the innermost element; it goes on where text stands before it. -/
def addText (value : List Char) : Build Unit := do
  let d ← get
  let before := d.neighbour? (d.placeIn d.current)
  match before, (before.bind fun i => d.nodes[i]?).map DraftNode.content with
  | some i, some (.text old) =>
    let text := old ++ String.ofList value
    set { d with nodes := d.nodes.modify i fun n => { n with content := .text text } }
  | _, _ => do
    let _ ← put (.text (String.ofList value))

/-- Put a comment into the innermost element. -/
def addComment (value : String) : Build Unit := do
  let _ ← put (.comment value)

/-- Give an element the attributes it does not have yet. -/
def addMissing (i : Nat) (attributes : List (String × String)) : Build Unit :=
  modify fun d =>
    { d with
      nodes := d.nodes.modify i fun n =>
        match n.content with
        | .element v name own =>
          { n with
            content :=
              .element v name (own ++ attributes.filter fun a => !own.any (·.1 = a.1)) }
        | _ => n }

/-- From here on the body stays. -/
def keepBody : Build Unit := modify fun d => { d with framesAllowed := false }

/-! ## Stepping out of elements -/

/-- Step out of the innermost element. -/
def pop : Build Unit := modify fun d => { d with stack := d.stack.tail }

/-- Step out of elements as long as they pass a test. -/
def popWhile (test : Draft → Nat → Bool) : Build Unit :=
  modify fun d => { d with stack := d.stack.dropWhile (test d) }

/-- Step out of everything up to an element with one of these names, but not out of that one. -/
def popTo (names : List String) : Build Unit := popWhile fun d i => !d.isNamed names i

/-- Step out of everything up to an element with one of these names, that one included. -/
def popThrough (names : List String) : Build Unit := do
  popTo names
  pop

/-- Step out of one element, wherever it stands on the stack. -/
def leaveElement (i : Nat) : Build Unit :=
  modify fun d => { d with stack := d.stack.filter (· ≠ i) }

/-- The elements that end without an end tag. -/
def impliedEnds : List String :=
  ["dd", "dt", "li", "optgroup", "option", "p", "rb", "rp", "rt", "rtc"]

/-- Step out of the elements that end by themselves, up to one of the given names. -/
def endImplied (kept : List String) : Build Unit :=
  popWhile fun d i => d.isNamed impliedEnds i && !d.isNamed kept i

/-- Step out of the elements that end by themselves, those of a table included. -/
def endImpliedThoroughly : Build Unit :=
  popWhile fun d i =>
    d.isNamed (impliedEnds ++ ["caption", "colgroup", "tbody", "td", "tfoot", "th", "thead", "tr"]) i

/-- End the paragraph around, if there is one. -/
def endParagraph : Build Unit := do
  if (← get).inButtonScope ["p"] then
    endImplied ["p"]
    popThrough ["p"]

/-- Step out of an element if it can be seen in the common scope. -/
def endInScope (names : List String) : Build Unit := do
  if (← get).inScope names then
    endImplied []
    popThrough names

/-- The end tag of an element without rules of its own. -/
def endOther (name : String) : Build Unit := do
  let d ← get
  if Draft.sees (d.isNamed [name]) d.isSpecial d.stack then
    endImplied [name]
    popThrough [name]

/-! ## Going on with another part -/

/-- Go on with another part. -/
def enter (m : Mode) : Build Unit := modify fun d => { d with mode := m }

/-- Is the nearest of these two around a table, and not a template? -/
def isInTable (d : Draft) (outer : List Nat) : Bool :=
  (outer.find? (d.isNamed ["table", "template"])).any (d.isNamed ["table"])

/-- The part to go on with, from the elements around. -/
def modeInside (d : Draft) : List Nat → Mode
  | [] => .inBody
  | i :: outer =>
    if d.isNamed ["select"] i then if isInTable d outer then .inSelectInTable else .inSelect
    else if d.isNamed ["td", "th"] i && !outer.isEmpty then .inCell
    else if d.isNamed ["tr"] i then .inRow
    else if d.isNamed ["tbody", "thead", "tfoot"] i then .inTableBody
    else if d.isNamed ["caption"] i then .inCaption
    else if d.isNamed ["colgroup"] i then .inColumnGroup
    else if d.isNamed ["table"] i then .inTable
    else if d.isNamed ["template"] i then d.templateModes.head?.getD .inTemplate
    else if d.isNamed ["head"] i && !outer.isEmpty then .inHead
    else if d.isNamed ["body"] i then .inBody
    else if d.isNamed ["frameset"] i then .inFrameset
    else if d.isNamed ["html"] i then (if d.head.isNone then .beforeHead else .afterHead)
    else modeInside d outer

/-- Go on with the part that the elements around call for. -/
def resetMode : Build Unit := modify fun d => { d with mode := modeInside d d.stack }

/-- Step into an element whose content is text up to its end tag. -/
def openText (t : Tag) (mode : TextMode) : Build Unit := do
  openTag t
  modify fun d => { d with textMode := mode, returnMode := d.mode, mode := .inText }

end Pinpoint.Markup.Build
