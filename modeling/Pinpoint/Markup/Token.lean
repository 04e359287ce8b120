/-
  Tokens of markup: tags, comments, document types, and the text between them.

  Which token comes next depends on where the text stands: inside a script or a title, tags are
  text up to the end tag of that element.  The one who reads the tokens says so with each step.

  1. Tags and tokens.
  2. Tags: names, attributes, and the end of a tag.
  3. Declarations: comments and sections of plain characters.
  4. Text that runs to an end tag.
  5. One step.
-/
import Pinpoint.Markup.DocumentType

namespace Pinpoint.Markup

/-! ## Tags and tokens -/

/-- A start tag or an end tag. -/
structure Tag where
  name : String
  attributes : List (String × String)
  selfClosing : Bool
  deriving Repr, DecidableEq

/-- A piece of markup text. -/
inductive Token
  | doctype (type : DocumentType)
  | startTag (tag : Tag)
  | endTag (tag : Tag)
  | comment (value : String)
  | text (value : List Char)
  /-- Something wrong that leaves no trace, but stands between what is before and after it. -/
  | fault
  | eof
  deriving Repr, DecidableEq

/-- How the text is to be read. -/
inductive TextMode
  /-- Tags, comments and references. -/
  | data
  /-- References, up to the end tag of this name. -/
  | escapable (name : String)
  /-- Plain characters, up to the end tag of this name. -/
  | raw (name : String)
  /-- A script, which may hide its end tag in a comment. -/
  | script
  /-- Plain characters to the end. -/
  | plain
  deriving Repr, DecidableEq

/-! ## Tags -/

/-- An attribute value after the equals sign, and the rest; none if it is never closed. -/
def attributeValue? (s : List Char) : Option (List Char × List Char) :=
  match s.dropWhile isMarkupBlank with
  | [] => none
  | c :: rest =>
    if c = '"' || c = '\'' then
      let value := rest.takeWhile (· ≠ c)
      match rest.drop value.length with
      | [] => none
      | _ :: rest => some (value, rest)
    else
      let isEnd := fun d => isMarkupBlank d || d = '>'
      let value := (c :: rest).takeWhile (fun d => !isEnd d)
      some (value, (c :: rest).drop value.length)

/-- Add an attribute unless there is one of that name. -/
def addAttribute (attributes : List (String × String)) (name : String) (value : List Char) :
    List (String × String) :=
  if attributes.any (·.1 = name) then attributes
  else attributes ++ [(name, String.ofList (withoutZeros (resolveReferences true value)))]

/-- The attributes of a tag up to its end, whether it closes itself, and the rest; none for a tag
    that never ends.  `bound` is at least the length of the text. -/
def tagRest? : Nat → List (String × String) → List Char →
    Option (List (String × String) × Bool × List Char)
  | 0, _, _ => none
  | bound + 1, attributes, s =>
    match s.dropWhile isMarkupBlank with
    | [] => none
    | '>' :: rest => some (attributes, false, rest)
    | '/' :: '>' :: rest => some (attributes, true, rest)
    | '/' :: rest => tagRest? bound attributes rest
    | c :: rest =>
      let isEnd := fun d => isMarkupBlank d || d = '/' || d = '>' || d = '='
      let more := rest.takeWhile (fun d => !isEnd d)
      let name := tagNameOf (c :: more)
      let rest := (rest.drop more.length).dropWhile isMarkupBlank
      match rest with
      | '=' :: rest =>
        match attributeValue? rest with
        | none => none
        | some (value, rest) => tagRest? bound (addAttribute attributes name value) rest
      | rest => tagRest? bound (addAttribute attributes name []) rest

/-- A tag from its name on. -/
def tag? (s : List Char) : Option (Tag × List Char) := do
  let isEnd := fun d => isMarkupBlank d || d = '/' || d = '>'
  let name := s.takeWhile (fun d => !isEnd d)
  let (attributes, selfClosing, rest) ← tagRest? (s.length + 1) [] (s.drop name.length)
  return (⟨tagNameOf name, attributes, selfClosing⟩, rest)

/-! ## Declarations -/

/-- The content of a comment that is never closed: a half-written end does not count. -/
def unclosedComment (s : List Char) : List Char :=
  match ["--!", "--", "-"].find? fun m => m.toList.isSuffixOf s with
  | some m => s.take (s.length - m.length)
  | none => s

/-- A comment after its opening mark. -/
def comment (s : List Char) : Token × List Char :=
  let token (value : List Char) : Token := .comment (String.ofList (withoutZeros value))
  match afterMark? [">", "->"] s with
  | some rest => (token [], rest)
  | none =>
    match splitAtFirst (afterMark? ["-->", "--!>"]) s with
    | (value, some rest) => (token value, rest)
    | (value, none) => (token (unclosedComment value), [])

/-- A comment made of what is no markup, up to the next angle. -/
def bogusComment (s : List Char) : Token × List Char :=
  let value := s.takeWhile (· ≠ '>')
  (.comment (String.ofList (withoutZeros value)), (s.drop value.length).tail)

/-- What follows an angle and an exclamation mark.  A section of plain characters is one only
    inside an element of another vocabulary. -/
def declaration (foreign : Bool) (s : List Char) : Token × List Char :=
  match afterWord? "--" s, afterWord? "doctype" s, afterWord? "[cdata[" s with
  | some rest, _, _ => comment rest
  | none, some rest, _ =>
    let (type, rest) := DocumentType.read rest
    (.doctype type, rest)
  | none, none, some rest =>
    if foreign && "[CDATA[".toList.isPrefixOf s then
      let (value, after) := splitAtFirst (afterWord? "]]>") rest
      (.text value, after.getD [])
    else bogusComment s
  | none, none, none => bogusComment s

/-! ## Text that runs to an end tag -/

/-- The text from an end tag on, if this end tag starts here. -/
def endTagHere? (name : String) (s : List Char) : Option (List Char) := do
  let rest ← afterWord? ("</" ++ name) s
  let c ← rest.head?
  if isMarkupBlank c || c = '/' || c = '>' then some s else none

/-- How far a script has gone into a comment. -/
inductive ScriptState
  | outside
  | commented
  /-- In a comment, after another script start tag. -/
  | nested
  deriving Repr, DecidableEq

/-- Does a start tag of a script begin here? -/
def startsScript (s : List Char) : Bool :=
  match afterWord? "<script" s with
  | some (c :: _) => isMarkupBlank c || c = '/' || c = '>'
  | _ => false

/-- The text of a script, and what follows it. -/
def scriptText : ScriptState → List Char → List Char × List Char
  | _, [] => ([], [])
  | state, c :: rest =>
    let s := c :: rest
    if state ≠ .nested && (endTagHere? "script" s).isSome then ([], s)
    else
      let next :=
        match state with
        | .outside => if "<!--".toList.isPrefixOf s then .commented else .outside
        | .commented =>
          if "-->".toList.isPrefixOf s then .outside
          else if startsScript s then .nested else .commented
        | .nested =>
          if "-->".toList.isPrefixOf s then .outside
          else if (endTagHere? "script" s).isSome then .commented else .nested
      let (text, after) := scriptText next rest
      (c :: text, after)

/-! ## One step -/

/-- The tokens of a text. -/
def textToken (value : List Char) : List Token := if value.isEmpty then [] else [.text value]

/-- The tokens of a text with references; a number without its semicolon in front is a fault. -/
def referenceTokens (s : List Char) : List Token :=
  let found := textToken (resolveReferences false s)
  if startsWithOpenNumber s then .fault :: found else found

/-- Markup after an angle; none if the angle is text. -/
def markup? (foreign : Bool) : List Char → Option (List Token × List Char)
  | '!' :: rest =>
    let (t, rest) := declaration foreign rest
    some ([t], rest)
  | '?' :: rest =>
    let (t, rest) := bogusComment ('?' :: rest)
    some ([t], rest)
  | '/' :: c :: rest =>
    if c.isAlpha then
      match tag? (c :: rest) with
      | some (t, rest) => some ([.endTag t], rest)
      | none => some ([], [])
    else if c = '>' then some ([.fault], rest)
    else
      let (t, rest) := bogusComment (c :: rest)
      some ([t], rest)
  | c :: rest =>
    if c.isAlpha then
      match tag? (c :: rest) with
      | some (t, rest) => some ([.startTag t], rest)
      | none => some ([], [])
    else none
  | [] => none

/-- Text that runs up to an end tag. -/
def rawText (name : String) (tokens : List Char → List Token) (s : List Char) :
    List Token × List Char :=
  let (value, found) := splitAtFirst (endTagHere? name) s
  if value.isEmpty then
    match tag? (s.drop 2) with
    | some (t, rest) => ([.endTag t], rest)
    | none => ([], [])
  else (tokens (withoutZeros value), found.getD [])

/-- The next tokens of a text that is not empty, and the rest. -/
def step (mode : TextMode) (foreign : Bool) (s : List Char) : List Token × List Char :=
  match mode with
  | .plain => (textToken (withoutZeros s), [])
  | .escapable name => rawText name referenceTokens s
  | .raw name => rawText name textToken s
  | .script =>
    let (value, rest) := scriptText .outside s
    if value.isEmpty then rawText "script" textToken s else (textToken (withoutZeros value), rest)
  | .data =>
    match s with
    | '<' :: rest =>
      match markup? foreign rest with
      | some found => found
      | none =>
        let more := rest.takeWhile (· ≠ '<')
        ([.text ('<' :: resolveReferences false more)], rest.drop more.length)
    | s =>
      let value := s.takeWhile (· ≠ '<')
      (referenceTokens value, s.drop value.length)

/-! ## The text as it is read -/

/-- Line ends as single line feeds. -/
def unifyLineEnds : List Char → List Char
  | '\r' :: '\n' :: rest => '\n' :: unifyLineEnds rest
  | '\r' :: rest => '\n' :: unifyLineEnds rest
  | c :: rest => c :: unifyLineEnds rest
  | [] => []

/-- The characters of a text, without a leading byte order mark. -/
def readable (s : String) : List Char :=
  match s.toList with
  | '\ufeff' :: rest => unifyLineEnds rest
  | cs => unifyLineEnds cs

end Pinpoint.Markup
