import Hiring.Text.Blank
import Hiring.Text.Lowercase
import Hiring.Text.Pieces

/-!
# Allow-lists

The rule of a field for a text: the texts that are accepted, between commas, without regard to
case and outer blanks.

* `AllowList.normal` — the form in which texts are compared: trimmed, then in lower case.
* `AllowList.ofText` — the accepted texts in that form, in the order of the rule.
* `AllowList.shown` — the accepted texts in a message.
-/

namespace Hiring.AllowList

open Text

/-- Trimmed and in lower case. -/
def normal (cs : List Char) : List Char := lowerFrom [] (trimChars cs)

/-- The texts that a rule accepts, in normal form; empty ones are dropped. -/
def ofText (rule : String) : List String :=
  (((pieces ',' rule.toList).map normal).filter fun token => !token.isEmpty).map String.ofList

/-- The accepted texts as they stand in a message. -/
def shown (allowed : List String) : String := ", ".intercalate allowed

/-- A text is accepted if its normal form is listed. -/
def accepts (allowed : List String) (text : String) : Bool :=
  allowed.contains (String.ofList (normal text.toList))

end Hiring.AllowList
