/-
  Why a text is not a selector.
-/
import Pinpoint.Text.Quoted

namespace Pinpoint

/-- The causes for which a selector is refused. -/
inductive SelectorError
  /-- Nothing but white space. -/
  | empty
  /-- A character that cannot stand here, and the number of bytes before it. -/
  | unexpectedChar (found : Char) (offset : Nat)
  /-- The text stops too early. -/
  | unexpectedEnd
  /-- An identifier that starts like a number. -/
  | invalidIdentifier (name : String)
  /-- A pseudo-class outside the supported ones, or one with a wrong use of parentheses. -/
  | unsupportedPseudoClass (name : String)
  /-- An argument that is no `An+B` expression. -/
  | invalidNth (argument : String)
  deriving Repr, DecidableEq

namespace SelectorError

/-- The wording of each cause. -/
def message : SelectorError → String
  | empty => "empty selector"
  | unexpectedChar c n => "unexpected " ++ Text.quoteChar c ++ " at offset " ++ toString n
  | unexpectedEnd => "unexpected end of selector"
  | invalidIdentifier s => "invalid identifier " ++ Text.quoteText s
  | unsupportedPseudoClass s => "unsupported pseudo-class :" ++ s
  | invalidNth s => "invalid An+B expression " ++ Text.quoteText s

end SelectorError

end Pinpoint
