/-
  What a token does in the body.

  Blocks end the paragraph around, items end the item before, formatting goes on across the blocks
  that interrupt it, and everything else is put where it stands.

  1. Names and kinds of elements.
  2. Items and forms.
  3. Elements of another vocabulary.
  4. Start tags and end tags.
  5. The rules of the body and of an element whose content is text.
-/
import Pinpoint.Markup.Rule.Head

namespace Pinpoint.Markup.Rule

open Build

/-! ## Names and kinds of elements -/

/-- The headings. -/
def headings : List String := ["h1", "h2", "h3", "h4", "h5", "h6"]

/-- Elements that end the paragraph around. -/
def blocks : List String :=
  ["address", "article", "aside", "blockquote", "center", "details", "dialog", "dir", "div", "dl",
   "fieldset", "figcaption", "figure", "footer", "header", "hgroup", "main", "menu", "nav", "ol",
   "p", "search", "section", "summary", "ul"]

/-- Formatting elements that may stand inside each other. -/
def formattingNames : List String :=
  ["b", "big", "code", "em", "font", "i", "s", "small", "strike", "strong", "tt", "u"]

/-- Elements that hold what stands on its own. -/
def holders : List String := ["applet", "marquee", "object"]

/-- Is the tag one of a field that does not show? -/
def isHidden (t : Tag) : Bool :=
  t.attributes.any fun a => a.1 = "type" && Ascii.lower a.2 = "hidden"

/-! ## Items and forms -/

/-- An item that the next item of these names ends: the innermost one, unless a special element
    other than a plain container stands in between. -/
def itemToEnd? (d : Draft) (names : List String) : List Nat → Option String
  | [] => none
  | i :: outer =>
    if d.isNamed names i then (d.element? i).map (·.2)
    else if d.isSpecial i && !d.isNamed ["address", "div", "p"] i then none
    else itemToEnd? d names outer

/-- The start of an item, which ends the one before. -/
def startItem (names : List String) (t : Tag) : Build Unit := do
  keepBody
  let d ← get
  match itemToEnd? d names d.stack with
  | some name =>
    endImplied [name]
    popThrough [name]
  | none => pure ()
  endParagraph
  openTag t

/-- The start of a form; there are no forms inside forms. -/
def startForm (t : Tag) : Build Unit := do
  let d ← get
  let inside := d.isOpen ["template"]
  if d.form.isNone || inside then
    endParagraph
    let i ← openElement .html t.name t.attributes
    if !inside then modify fun d => { d with form := some i }

/-- The end of a form. -/
def endForm : Build Unit := do
  let d ← get
  if d.isOpen ["template"] then endInScope ["form"]
  else
    set { d with form := none }
    match d.form with
    | none => pure ()
    | some i =>
      if d.seesInScope (· = i) then
        endImplied []
        leaveElement i

/-! ## Elements of another vocabulary -/

/-- The local name of an attribute inside another vocabulary. -/
def foreignName (v : Vocabulary) (name : String) : String :=
  if ["xlink:actuate", "xlink:arcrole", "xlink:href", "xlink:role", "xlink:show", "xlink:title",
      "xlink:type"].contains name then String.ofList (name.toList.drop 6)
  else if ["xml:lang", "xml:space"].contains name then String.ofList (name.toList.drop 4)
  else if name = "xmlns:xlink" then "xlink"
  else
    match v with
    | .html => name
    | .math => if name = "definitionurl" then "definitionURL" else name
    | .svg => (svgNames.find? fun n => Ascii.lower n = name).getD name
where
  /-- Names with capital letters. -/
  svgNames : List String :=
    ["attributeName", "attributeType", "baseFrequency", "baseProfile", "calcMode", "clipPathUnits",
     "diffuseConstant", "edgeMode", "filterUnits", "glyphRef", "gradientTransform",
     "gradientUnits", "kernelMatrix", "kernelUnitLength", "keyPoints", "keySplines", "keyTimes",
     "lengthAdjust", "limitingConeAngle", "markerHeight", "markerUnits", "markerWidth",
     "maskContentUnits", "maskUnits", "numOctaves", "pathLength", "patternContentUnits",
     "patternTransform", "patternUnits", "pointsAtX", "pointsAtY", "pointsAtZ", "preserveAlpha",
     "preserveAspectRatio", "primitiveUnits", "refX", "refY", "repeatCount", "repeatDur",
     "requiredExtensions", "requiredFeatures", "specularConstant", "specularExponent",
     "spreadMethod", "startOffset", "stdDeviation", "stitchTiles", "surfaceScale",
     "systemLanguage", "tableValues", "targetX", "targetY", "textLength", "viewBox", "viewTarget",
     "xChannelSelector", "yChannelSelector", "zoomAndPan"]

/-- Add an element of another vocabulary. -/
def openForeign (v : Vocabulary) (t : Tag) : Build Unit := do
  let _ ← openElement v t.name (t.attributes.map fun a => (foreignName v a.1, a.2))
  if t.selfClosing then pop

/-! ## Start tags and end tags -/

/-- A second `body` tag only adds the attributes that are missing. -/
def bodyTag (t : Tag) : Build Unit := do
  let d ← get
  match d.body? with
  | some i =>
    if !d.isOpen ["template"] then
      keepBody
      addMissing i t.attributes
  | none => pure ()

/-- A set of frames takes the place of a body that holds nothing yet. -/
def framesetTag (t : Tag) : Build Unit := do
  let d ← get
  match d.body? with
  | some i =>
    if d.framesAllowed then
      set { d.detach i with stack := d.stack.getLast?.toList }
      openTag t
      enter .inFrameset
  | none => pure ()

/-- The start of a selection list. -/
def startSelect (t : Tag) : Build Unit := do
  reopenFormatting
  openTag t
  keepBody
  modify fun d =>
    { d with
      mode :=
        if [.inTable, .inCaption, .inTableBody, .inRow, .inCell].contains d.mode then
          .inSelectInTable
        else .inSelect }

/-- A start tag in the body. -/
def bodyStartTag (t : Tag) : Build Bool := do
  let d ← get
  let is (names : List String) : Bool := names.contains t.name
  if is ["html"] then htmlTag t
  else if is headTags then headTag t
  else if is ["body"] then doing (bodyTag t)
  else if is ["frameset"] then doing (framesetTag t)
  else if is blocks then doing do endParagraph; openTag t
  else if is headings then doing do
    endParagraph
    if (← get).isCurrent headings then pop
    openTag t
  else if is ["pre", "listing"] then doing do
    endParagraph
    openTag t
    keepBody
    modify fun d => { d with skipLineFeed := true }
  else if is ["form"] then doing (startForm t)
  else if is ["li"] then doing (startItem ["li"] t)
  else if is ["dd", "dt"] then doing (startItem ["dd", "dt"] t)
  else if is ["plaintext"] then doing do
    endParagraph
    openTag t
    modify fun d => { d with textMode := .plain }
  else if is ["button"] then doing do
    endInScope ["button"]
    reopenFormatting
    openTag t
    keepBody
  else if is ["a"] then doing do
    endLink
    reopenFormatting
    startFormatting t
  else if is formattingNames then doing do
    reopenFormatting
    startFormatting t
  else if is ["nobr"] then doing do
    reopenFormatting
    if (← get).inScope ["nobr"] then
      endFormatting "nobr"
      reopenFormatting
    startFormatting t
  else if is holders then doing do
    reopenFormatting
    openTag t
    addMarker
    keepBody
  else if is ["table"] then doing do
    if !d.lenient then endParagraph
    openTag t
    keepBody
    enter .inTable
  else if is ["area", "br", "embed", "img", "image", "keygen", "wbr", "input"] then doing do
    reopenFormatting
    addVoid (if t.name = "image" then { t with name := "img" } else t)
    if !(t.name = "input" && isHidden t) then keepBody
  else if is ["param", "source", "track"] then doing (addVoid t)
  else if is ["hr"] then doing do
    endParagraph
    addVoid t
    keepBody
  else if is ["textarea"] then doing do
    openText t (.escapable t.name)
    keepBody
    modify fun d => { d with skipLineFeed := true }
  else if is ["xmp"] then doing do
    endParagraph
    reopenFormatting
    keepBody
    openText t (.raw t.name)
  else if is ["iframe"] then doing do
    keepBody
    openText t (.raw t.name)
  else if is ["noembed", "noscript"] then doing (openText t (.raw t.name))
  else if is ["select"] then doing (startSelect t)
  else if is ["optgroup", "option"] then doing do
    if d.isCurrent ["option"] then pop
    reopenFormatting
    openTag t
  else if is ["rb", "rtc"] then doing do
    if d.inScope ["ruby"] then endImplied []
    openTag t
  else if is ["rp", "rt"] then doing do
    if d.inScope ["ruby"] then endImplied ["rtc"]
    openTag t
  else if is ["math"] then doing (openForeign .math t)
  else if is ["svg"] then doing (openForeign .svg t)
  else if is ["caption", "col", "colgroup", "frame", "head", "tbody", "td", "tfoot", "th", "thead",
      "tr"] then done
  else doing do
    reopenFormatting
    openTag t

/-- An end tag in the body. -/
def bodyEndTag (t : Tag) : Build Bool := do
  let d ← get
  let is (names : List String) : Bool := names.contains t.name
  if is ["template"] then endTemplate
  else if is ["body"] then doing do if d.inScope ["body"] then enter .afterBody
  else if is ["html"] then if d.inScope ["body"] then againIn .afterBody else done
  else if is ["p"] then doing do
    if !d.inButtonScope ["p"] then openImplied "p"
    endParagraph
  else if is (["button", "listing", "pre"] ++ blocks) then doing (endInScope [t.name])
  else if is ["form"] then doing endForm
  else if is ["li"] then doing do
    if d.inListScope ["li"] then
      endImplied ["li"]
      popThrough ["li"]
  else if is ["dd", "dt"] then doing do
    if d.inScope [t.name] then
      endImplied [t.name]
      popThrough [t.name]
  else if is headings then doing (endInScope headings)
  else if is (["a", "nobr"] ++ formattingNames) then doing (endFormatting t.name)
  else if is holders then doing do
    if d.inScope [t.name] then
      endInScope [t.name]
      clearToMarker
  else if is ["br"] then bodyStartTag ⟨"br", [], false⟩
  else doing (endOther t.name)

/-! ## The rules -/

/-- Inside the body. -/
def inBody : Token → Build Bool
  | .text s => doing do
    if !isZeroRun s then
      reopenFormatting
      if !isBlankRun s then keepBody
      addText s
  | .comment s => doing (addComment s)
  | .doctype _ | .fault => done
  | .startTag t => bodyStartTag t
  | .endTag t => bodyEndTag t
  | .eof => do
    if (← get).templateModes.isEmpty then doing (enter .finished) else templateEof

/-- Inside an element whose content is text. -/
def inText : Token → Build Bool
  | .text s => doing (addText s)
  | .eof => do pop; againIn (← get).returnMode
  | _ => doing do
    pop
    enter (← get).returnMode

end Pinpoint.Markup.Rule
