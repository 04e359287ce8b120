/-
  What a token does right inside a template: the first start tag says which part of a document the
  template holds.
-/
import Pinpoint.Markup.Rule.Body

namespace Pinpoint.Markup.Rule

open Build

/-- Inside a template. -/
def inTemplate (token : Token) : Build Bool := do
  let holds (m : Mode) : Build Bool := do
    modify fun d => { d with templateModes := m :: d.templateModes.tail }
    againIn m
  match token with
  | .startTag t =>
    if headTags.contains t.name then headTag t
    else if ["caption", "colgroup", "tbody", "tfoot", "thead"].contains t.name then holds .inTable
    else if t.name = "col" then holds .inColumnGroup
    else if t.name = "tr" then holds .inTableBody
    else if ["td", "th"].contains t.name then holds .inRow
    else holds .inBody
  | .endTag t => if t.name = "template" then endTemplate else done
  | .eof => templateEof
  | token => inBody token

end Pinpoint.Markup.Rule
