/-
  Classes of characters that a pattern names by a property, such as `\p{Lu}` or `\p{Greek}`.

  A name is read loosely: case, blanks, underscores and hyphens do not count, and neither does a
  leading `is`.  A bare name means a property, a general category or a script, in this order; a name
  with a value says which of these it is, or asks for an age or for a role in a division of texts.

  1. Loose names.
  2. General categories.
  3. Scripts, properties, and ages.
  4. The set of a name.
-/
import Pinpoint.Pattern.CharSet
import Pinpoint.Text.Age
import Pinpoint.Text.Boundary
import Pinpoint.Text.Script

namespace Pinpoint.CharSet

/-! ## Loose names -/

/-- A name without what does not count.  What is not ASCII does not count either. -/
def looseName (s : List Char) : String :=
  let isPrefixed := (s.take 2).map Char.toLower = ['i', 's']
  let kept := (if isPrefixed then s.drop 2 else s).filter fun c =>
    Ascii.isAscii c && c ≠ ' ' && c ≠ '_' && c ≠ '-'
  let name := String.ofList (kept.map Char.toLower)
  -- The abbreviation of a comment property, which is no class.
  if isPrefixed && name = "c" then "isc" else name

/-! ## General categories -/

/-- The set of all characters of some categories. -/
def ofCategories (categories : List Text.Category) : CharSet :=
  ofRanges (categories.flatMap Text.Category.runs)

/-- The characters that are assigned. -/
def assigned : CharSet := ofCategories Text.Category.all

/-- Names of categories, and of groups of categories. -/
def categoryNames : List (List String × List Text.Category) :=
  [(["lu", "uppercaseletter"], [.lu]),
   (["ll", "lowercaseletter"], [.ll]),
   (["lt", "titlecaseletter"], [.lt]),
   (["lc", "casedletter"], [.lu, .ll, .lt]),
   (["lm", "modifierletter"], [.lm]),
   (["lo", "otherletter"], [.lo]),
   (["l", "letter"], [.lu, .ll, .lt, .lm, .lo]),
   (["mn", "nonspacingmark"], [.mn]),
   (["mc", "spacingmark"], [.mc]),
   (["me", "enclosingmark"], [.me]),
   (["m", "mark", "combiningmark"], [.mn, .mc, .me]),
   (["nd", "decimalnumber", "digit"], [.nd]),
   (["nl", "letternumber"], [.nl]),
   (["no", "othernumber"], [.no]),
   (["n", "number"], [.nd, .nl, .no]),
   (["pc", "connectorpunctuation"], [.pc]),
   (["pd", "dashpunctuation"], [.pd]),
   (["ps", "openpunctuation"], [.ps]),
   (["pe", "closepunctuation"], [.pe]),
   (["pi", "initialpunctuation"], [.pi]),
   (["pf", "finalpunctuation"], [.pf]),
   (["po", "otherpunctuation"], [.po]),
   (["p", "punct", "punctuation"], [.pc, .pd, .ps, .pe, .pi, .pf, .po]),
   (["sm", "mathsymbol"], [.sm]),
   (["sc", "currencysymbol"], [.sc]),
   (["sk", "modifiersymbol"], [.sk]),
   (["so", "othersymbol"], [.so]),
   (["s", "symbol"], [.sm, .sc, .sk, .so]),
   (["zs", "spaceseparator"], [.zs]),
   (["zl", "lineseparator"], [.zl]),
   (["zp", "paragraphseparator"], [.zp]),
   (["z", "separator"], [.zs, .zl, .zp]),
   (["cc", "control", "cntrl"], [.cc]),
   (["cf", "format"], [.cf]),
   (["co", "privateuse"], [.co])]

/-- The set of a general category; what is not assigned counts as one. -/
def ofCategoryName? (name : String) : Option CharSet :=
  if name = "any" then some all
  else if name = "ascii" then some ⟨[(0x0, 0x7f)]⟩
  else if name = "assigned" then some assigned
  else if ["cn", "unassigned"].contains name then some (compl assigned)
  else if ["c", "other"].contains name then
    some (union (compl assigned) (ofCategories [.cc, .cf, .co]))
  else (categoryNames.find? (·.1.contains name)).map fun c => ofCategories c.2

/-! ## Scripts, properties, and ages -/

/-- The set of a script: its members, or all characters that it uses. -/
def ofScriptName? (inUse : Bool) (name : String) : Option CharSet :=
  (Text.scripts.find? (·.names.contains name)).map fun s =>
    if inUse then diff (ofRanges (s.members ++ s.guests)) ⟨s.strays⟩ else ofRanges s.members

/-- The set of a property, looked up among some. -/
def ofPropertyName? (properties : List Text.Property) (name : String) : Option CharSet :=
  (properties.find? (·.names.contains name)).map fun p =>
    diff (union (ofCategories p.categories) (ofRanges p.besides)) ⟨p.without⟩

/-- What a version of the character standard assigns: its own code points and those of all versions
    before. -/
def ofVersionName? (name : String) : Option CharSet :=
  (Text.versions.findIdx? (·.names.contains name)).map fun i =>
    ofRanges ((Text.versions.take (i + 1)).flatMap (·.added))

/-! ## The set of a name -/

/-- The set of a bare name. -/
def ofName? (s : List Char) : Option CharSet :=
  let name := looseName s
  ofPropertyName? Text.properties name <|> ofCategoryName? name <|> ofScriptName? false name

/-- The set of a name with a value. -/
def ofNameAndValue? (name value : List Char) : Option CharSet :=
  let name := looseName name
  let value := looseName value
  if ["gc", "generalcategory"].contains name then ofCategoryName? value
  else if ["sc", "script"].contains name then ofScriptName? false value
  else if ["scx", "scriptextensions"].contains name then ofScriptName? true value
  else if name = "age" then ofVersionName? value
  else if ["gcb", "graphemeclusterbreak"].contains name then
    ofPropertyName? Text.graphemeRoles value
  else if ["wb", "wordbreak"].contains name then ofPropertyName? Text.wordRoles value
  else if ["sb", "sentencebreak"].contains name then ofPropertyName? Text.sentenceRoles value
  else Option.none

example : looseName "Is_Upper case-Letter".toList = "uppercaseletter" := by decide
example : (ofVersionName? "1.0").isNone ∧ (ofVersionName? "v11").any (·.contains 'a') := by
  decide +kernel

end Pinpoint.CharSet
