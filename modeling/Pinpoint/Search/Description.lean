/-
  Descriptions: what one compound of an answer says about an element, as data.

  1. Places among siblings, and the token of each.
  2. Descriptions: the text that is written for one, and the compound that this text means.
  3. Whose description it is, and which options allow it.
  4. Plain documents: no name and no value in them holds a sign of the selector language.
-/
import Pinpoint.Search.DocumentHost
import Pinpoint.Search.Token

namespace Pinpoint

/-! ## Places -/

/-- A place among siblings; the first and the last one are not called by their number. -/
inductive Place
  | first
  | last
  | nth (number : Nat)
  deriving Repr, DecidableEq

namespace Place

/-- The place of an element with `index` of its `count` siblings before it. -/
def ofIndex (index count : Nat) : Place :=
  if index = 0 then first else if index + 1 = count then last else nth (index + 1)

/-- The token of a place. -/
def text : Place → String
  | first => ":first-child"
  | last => ":last-child"
  | nth number => ":nth-child(" ++ toString number ++ ")"

/-- The condition that the token means. -/
def pseudoClass : Place → PseudoClass
  | first => .firstChild
  | last => .lastChild
  | nth number => .nthChild ⟨0, Int32.ofNat number⟩

/-- Numbers start at two, as the first place has a name, and they fit 32 bits. -/
def IsInRange : Place → Prop
  | nth number => 2 ≤ number ∧ (number : Int) ≤ Int32.maxValue.toInt
  | _ => True

end Place

theorem nthChildToken_eq_text (index count : Nat) :
    nthChildToken index count = (Place.ofIndex index count).text := by
  unfold nthChildToken Place.ofIndex
  split
  · rfl
  · split
    · rfl
    · rfl

theorem Place.two_le_of_ofIndex {index count number : Nat}
    (h : Place.ofIndex index count = .nth number) : 2 ≤ number := by
  unfold ofIndex at h
  split at h
  · cases h
  · split at h
    · cases h
    · cases h
      omega

/-! ## Descriptions -/

/-- What a compound may say: at most one tag, one id, and one place, any number of classes, and
    any number of attributes by name and value. -/
structure Description where
  tag : Option String
  id : Option String
  classes : List String
  attributes : List (String × String)
  place : Option Place
  deriving Repr, DecidableEq

namespace Description

/-- The tokens that follow the tag, in the order of a compound. -/
def tokens (q : Description) : List String :=
  q.id.toList.map ("#" ++ ·) ++ q.classes.map ("." ++ ·) ++ q.attributes.map attributeToken

/-- What is written for a description. -/
def text (q : Description) : String :=
  String.join (q.tag.toList ++ q.tokens ++ q.place.toList.map Place.text)

/-- The conditions that the tokens mean; the case of a value counts. -/
def conditions (q : Description) : List Component :=
  q.id.toList.map .id ++ q.classes.map .className ++
    q.attributes.map fun a => .attribute ⟨Ascii.lower a.1, some (.equals, a.2), false⟩

/-- The compound that a description stands for. -/
def compound (q : Description) : Compound :=
  q.tag.toList.map .tag ++ q.conditions ++ q.place.toList.map fun p => .pseudo p.pseudoClass

/-- The text and its compound, for a description that says something of every kind. -/
example :
    let q : Description := ⟨some "li", some "a", ["b"], [("c", "d e")], some (.nth 2)⟩
    q.text = "li#a.b[c=\"d e\"]:nth-child(2)" ∧
    q.compound = [.tag "li", .id "a", .className "b",
      .attribute ⟨"c", some (.equals, "d e"), false⟩, .pseudo (.nthChild ⟨0, 2⟩)] := by
  decide +kernel

/-! ## Elements and options -/

/-- A description of this very element, in words of its own. -/
structure IsOf {E ε : Type} (q : Description) (h : Host E ε) (e : E) : Prop where
  tag : ∀ w, q.tag = some w → w = Ascii.lower (h.tagName e) ∧ w ≠ ""
  id : ∀ v, q.id = some v → h.id e = some v
  classes : ∀ v ∈ q.classes, v ∈ h.classes e
  attributes : ∀ a ∈ q.attributes, a ∈ h.attributes e
  place : ∀ p, q.place = some p →
    ∃ index count, h.position e = some (index, count) ∧ p = Place.ofIndex index count

/-- Only kinds in use, not more than allowed of each, and no id or class that is left out. -/
structure AllowedBy (q : Description) (o : Options) : Prop where
  tag_mem : q.tag ≠ none → .tag ∈ o.kinds
  id_mem : q.id ≠ none → .id ∈ o.kinds
  className_mem : q.classes ≠ [] → .className ∈ o.kinds
  attributes_mem : q.attributes ≠ [] → .attributes ∈ o.kinds
  nthChild_mem : q.place ≠ none → .nthChild ∈ o.kinds
  length_classes_le : q.classes.length ≤ o.maxCombination
  length_attributes_le : q.attributes.length ≤ o.maxCombination
  id_not_excluded : ∀ v, q.id = some v → o.isExcluded v = false
  classes_not_excluded : ∀ v ∈ q.classes, o.isExcluded v = false

end Description

/-- A compound that a description stands for which the options allow. -/
def Compound.AllowedBy (k : Compound) (o : Options) : Prop :=
  ∃ q : Description, q.AllowedBy o ∧ (∀ p, q.place = some p → p.IsInRange) ∧ k = q.compound

/-! ## Plain documents -/

/-- Only characters that a name goes on with. -/
def isPlainName (w : String) : Bool := w.toList.all Reader.isNameChar

/-- Nothing that ends a quoted text or changes what follows it there. -/
def isPlainValue (w : String) : Bool := w.toList.all fun c => c ≠ '"' && c ≠ '\\'

/-- An element whose tag, id, classes and attribute names are plain names, and whose attribute
    values are plain values. -/
def Host.isPlain {E ε : Type} (h : Host E ε) (e : E) : Bool :=
  isPlainName (h.tagName e) && (h.id e).all isPlainName && (h.classes e).all isPlainName &&
    (h.attributes e).all fun a => isPlainName a.1 && isPlainValue a.2

/-- Every attached element is plain. -/
def Document.isPlain (d : Document) : Bool := d.elements.all d.host.isPlain

end Pinpoint
