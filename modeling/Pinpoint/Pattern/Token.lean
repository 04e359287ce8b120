/-
  Cutting a pattern text into tokens.

  A token is an expression for one place or one character, a repetition that applies to what
  stands before it, a bar, or a bracket of a group.  Switches such as `(?i)` hold from where they
  stand to the end of the group, so the scanner keeps those in force and the ones of the groups
  around.  Every text that is no pattern gives none.

  1. Tokens.
  2. Groups and switches.
  3. Repetitions.
  4. The scanner.
-/
import Pinpoint.Pattern.Class
import Pinpoint.Text.Letter

namespace Pinpoint.PatternText

/-! ## Tokens -/

/-- The pieces of a pattern. -/
inductive Token
  /-- An expression without repetitions, and how deep its text nests. -/
  | atom (e : Expr) (depth : Nat)
  | repetition (min : Nat) (max : Option Nat)
  | bar
  /-- The start of a group, which may be numbered. -/
  | opening (numbered : Bool)
  | closing
  /-- Switches on their own: nothing that could be repeated. -/
  | switches
  deriving Repr, DecidableEq

/-! ## Groups and switches -/

/-- The switches after a list of letters, where a hyphen turns the following ones off.  No letter
    comes twice, and neither does the hyphen, nor does it come last. -/
def switched? (sw : Switches) (letters : List Char) : Option Switches :=
  if letters.eraseDups.length ≠ letters.length || letters.getLast? = some '-' then none
  else (letters.foldlM turn (sw, true)).map (·.1)
where
  /-- One letter, read while switching on or off. -/
  turn : Switches × Bool → Char → Option (Switches × Bool)
  | (sw, on), c =>
    if c = '-' then some (sw, false)
    else if c = 'i' then some ({ sw with ignoreCase := on }, on)
    else if c = 'm' then some ({ sw with multiLine := on }, on)
    else if c = 's' then some ({ sw with dotAll := on }, on)
    else if c = 'R' then some ({ sw with anyLineEnd := on }, on)
    else if c = 'x' then some ({ sw with spaced := on }, on)
    -- Whether the longest match is preferred does not change whether there is one.
    else if c = 'U' then some (sw, on)
    else if c = 'u' then some ({ sw with ascii := !on }, on)
    else none

/-- What an opening bracket is. -/
inductive Opening
  | group (inside : Switches) (numbered : Bool) (name : Option String)
  | switches (after : Switches)
  deriving Repr, DecidableEq

/-- The name of a group, after the angle that opens it: it starts like a word, and numbers, dots and
    square brackets may follow. -/
def groupName? (s : List Char) : Option (String × List Char) :=
  let name := s.takeWhile (· ≠ '>')
  let isFirst := fun c => c = '_' || Text.isLetter c
  let isLater := fun c => isFirst c || Text.isNumber c || c = '.' || c = '[' || c = ']'
  match name, s.drop name.length with
  | c :: cs, _ :: rest =>
    if isFirst c && cs.all isLater then some (String.ofList name, rest) else none
  | _, _ => none

/-- What follows an opening bracket: the name of a group, switches, or nothing of the kind.  There
    are no groups that only look ahead or behind. -/
def opening? (sw : Switches) (s : List Char) : Option (Opening × List Char) :=
  let named (rest : List Char) : Option (Opening × List Char) :=
    (groupName? rest).map fun (w, r) => (.group sw true (some w), r)
  match s with
  | '?' :: 'P' :: '<' :: rest => named rest
  | '?' :: '<' :: rest => named rest
  | '?' :: rest => do
    let isEnd := fun c => c = ':' || c = ')'
    let letters := rest.takeWhile (fun c => !isEnd c)
    let inside ← switched? sw letters
    match rest.drop letters.length with
    | ':' :: after => some (.group inside false none, after)
    | ')' :: after => if letters.isEmpty then none else some (.switches inside, after)
    | _ => none
  | _ => some (.group sw true none, s)

/-! ## Repetitions -/

/-- A number of 32 bits, blanks around it allowed. -/
def count? (sw : Switches) (s : List Char) : Option (Nat × List Char) :=
  let s := s.dropWhile Text.isSpace
  let (digits, rest) := sw.take Char.isDigit s.length s
  let rest := rest.dropWhile Text.isSpace
  if digits.isEmpty then none
  else
    let n := digits.foldl (fun n c => 10 * n + (c.toNat - '0'.toNat)) 0
    if n < UInt32.size then some (n, sw.skip rest) else none

/-- The limits of a repetition in braces, after the opening brace. -/
def limits? (sw : Switches) (s : List Char) : Option ((Nat × Option Nat) × List Char) := do
  let (min, rest) ← count? sw (sw.skip s)
  match rest with
  | '}' :: rest => return ((min, some min), rest)
  | ',' :: rest =>
    match sw.skip rest with
    | '}' :: rest => return ((min, none), rest)
    | rest =>
      let (max, rest) ← count? sw rest
      match rest with
      | '}' :: rest => if min ≤ max then return ((min, some max), rest) else none
      | _ => none
  | _ => none

/-- The rest after a question mark, which asks for the shortest match and does not change whether
    there is one. -/
def skipLazy : List Char → List Char
  | '?' :: rest => rest
  | s => s

/-! ## The scanner -/

/-- The expression of a character that stands for itself. -/
def literal (sw : Switches) (c : Char) : Expr :=
  .one <|
    if !sw.ignoreCase then .single c
    else if sw.ascii then (CharSet.single c).caselessAscii
    else .ofList (c :: Text.caseVariants c)

/-- The expression of the dot: every character that does not end a line.  Where only ASCII is known
    there is no dot. -/
def dot? (sw : Switches) : Option Expr :=
  if sw.ascii then none
  else
    some <| .one <|
      if sw.dotAll then .all
      else .compl (.ofList (if sw.anyLineEnd then ['\n', '\r'] else ['\n']))

/-- The expression of the hat. -/
def hat (sw : Switches) : Expr :=
  .look (if !sw.multiLine then .textStart else if sw.anyLineEnd then .anyLineStart else .lineStart)

/-- The expression of the dollar sign. -/
def dollar (sw : Switches) : Expr :=
  .look (if !sw.multiLine then .textEnd else if sw.anyLineEnd then .anyLineEnd else .lineEnd)

/-- The expression of an escape. -/
def ofEscape (sw : Switches) : Escape → Expr
  | .literal c => literal sw c
  | .set s => .one s
  | .look l => .look l

/-- One token, the switches in force after it, and those of the groups around. -/
structure Scanned where
  token : Token
  inside : Switches
  outside : List Switches
  groupName : Option String
  rest : List Char

/-- The token at the start of a text that is not empty. -/
def scanOne? (sw : Switches) (outside : List Switches) (c : Char) (rest : List Char) :
    Option Scanned :=
  let plain (t : Token) (rest : List Char) : Scanned := ⟨t, sw, outside, none, rest⟩
  if c = '(' then do
    let (o, rest) ← opening? sw (sw.skip rest)
    match o with
    | .group inside numbered name => return ⟨.opening numbered, inside, sw :: outside, name, rest⟩
    | .switches after => return ⟨.switches, after, outside, none, rest⟩
  else if c = ')' then
    match outside with
    | [] => none
    | before :: outside => some ⟨.closing, before, outside, none, rest⟩
  else if c = '|' then some (plain .bar rest)
  else if c = '[' then
    (class? sw (2 * rest.length + 2) rest).map fun (s, r) => plain (.atom (.one s.set) s.depth) r
  else if c = '?' then some (plain (.repetition 0 (some 1)) (skipLazy rest))
  else if c = '*' then some (plain (.repetition 0 none) (skipLazy rest))
  else if c = '+' then some (plain (.repetition 1 none) (skipLazy rest))
  else if c = '{' then
    (limits? sw rest).map fun ((min, max), r) =>
      plain (.repetition min max) (skipLazy (sw.skip r))
  else if c = '\\' then (escape? sw rest).map fun (e, r) => plain (.atom (ofEscape sw e) 0) r
  else if c = '.' then (dot? sw).map fun e => plain (.atom e 0) rest
  else if c = '^' then some (plain (.atom (hat sw) 0) rest)
  else if c = '$' then some (plain (.atom (dollar sw) 0) rest)
  else some (plain (.atom (literal sw c) 0) rest)

/-- The tokens of a text; `names` are the group names met so far, each of which comes once, and
    `bound` is at least the number of tokens. -/
def scan? : Nat → Switches → List Switches → List String → List Char → Option (List Token)
  | 0, _, _, _, s => if s.isEmpty then some [] else none
  | bound + 1, sw, outside, names, s =>
    match sw.skip s with
    | [] => some []
    | c :: rest => do
      let found ← scanOne? sw outside c rest
      if (found.groupName.map names.contains).getD false then none
      let tokens ← scan? bound found.inside found.outside (found.groupName.toList ++ names) found.rest
      return found.token :: tokens

/-- The tokens of a pattern. -/
def tokens? (s : String) : Option (List Token) :=
  scan? s.toList.length .off [] [] s.toList

end Pinpoint.PatternText
