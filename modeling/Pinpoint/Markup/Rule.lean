/-
  The rule of each part of a document.
-/
import Pinpoint.Markup.Rule.Select
import Pinpoint.Markup.Rule.Table
import Pinpoint.Markup.Rule.Template
import Pinpoint.Markup.Rule.End

namespace Pinpoint.Markup.Rule

/-- The rule of the part that is being read. -/
def ofMode : Mode → Token → Build Bool
  | .start => start
  | .beforeHtml => beforeHtml
  | .beforeHead => beforeHead
  | .inHead => inHead
  | .afterHead => afterHead
  | .inBody => inBody
  | .inText => inText
  | .inTable => inTable
  | .inTableText => inTableText
  | .inCaption => inCaption
  | .inColumnGroup => inColumnGroup
  | .inTableBody => inTableBody
  | .inRow => inRow
  | .inCell => inCell
  | .inSelect => inSelect
  | .inSelectInTable => inSelectInTable
  | .inTemplate => inTemplate
  | .afterBody => afterBody
  | .inFrameset => inFrameset
  | .afterFrameset => afterFrameset
  | .afterHtml => afterHtml
  | .afterFrames => afterFrames
  | .finished => fun _ => done

end Pinpoint.Markup.Rule
