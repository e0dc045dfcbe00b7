import Hiring.Criterion.Comparison
import Hiring.Text.Blank

/-!
# Rules for numbers

The rule of a field for a number: an operator and a threshold, such as `>= 3.0` or `min 2`.  A
bare number asks for equality.

* `NumericRule` — a comparison and a threshold.
* `NumericRule.spellings` — the operators; an operator that begins with another one stands before
  it.
* `NumericRule.parse` — the rule of a text, or the text itself as the error.
* `NumericRule.text` — a rule in the words of a message.
-/

namespace Hiring

/-- A comparison with a fixed threshold. -/
structure NumericRule where
  comparison : Comparison
  threshold : Binary64
deriving DecidableEq

namespace NumericRule

open Text

/-- A text that is no rule. -/
structure ParseError where
  /-- The text, with its outer blanks. -/
  input : String
deriving Repr, DecidableEq

/-- The wording of the error. -/
def ParseError.message (e : ParseError) : String := "'" ++ e.input ++ "' is not a numeric criterion"

/-- The operators of rules, in the order in which they are tried. -/
def spellings : List (List Char × Comparison) := [
  (['>', '='], .atLeast),
  (['<', '='], .atMost),
  (['>'], .greaterThan),
  (['<'], .lessThan),
  (['='], .equalTo),
  (['m', 'i', 'n', ' '], .atLeast),
  (['m', 'a', 'x', ' '], .atMost),
  (['m', 'i', 'n', 'i', 'm', 'a', 'l', ' '], .atLeast),
  (['m', 'a', 'k', 's', 'i', 'm', 'a', 'l', ' '], .atMost)]

/-- The text starts with a word, up to the case of ASCII letters. -/
def startsWith (word cs : List Char) : Bool := sameIgnoringCase word (cs.take word.length)

/-- The operator at the front of a text, and what follows it. -/
def operator? (cs : List Char) : Option (Comparison × List Char) :=
  (spellings.find? fun (word, _) => startsWith word cs).map fun (word, comparison) =>
    (comparison, cs.drop word.length)

/-- The rule that some characters say, without blanks at their ends. -/
def ofChars? (cs : List Char) : Option NumericRule :=
  let (comparison, rest) := (operator? cs).getD (.equalTo, cs)
  ((Binary64.ofChars? (trimChars rest)).filter Binary64.isFinite).map (⟨comparison, ·⟩)

/-- The rule of a text. -/
def parse (input : String) : Except ParseError NumericRule :=
  match ofChars? (trimChars input.toList) with
  | some rule => .ok rule
  | none => .error ⟨input⟩

/-- The rule holds of a value. -/
def Matches (rule : NumericRule) (value : Binary64) : Prop :=
  rule.comparison.Holds value rule.threshold

instance (rule : NumericRule) (value : Binary64) : Decidable (rule.Matches value) :=
  inferInstanceAs (Decidable (rule.comparison.Holds _ _))

/-- The rule in the words of a message. -/
def text (rule : NumericRule) : String := rule.comparison.phrase ++ " " ++ rule.threshold.text

/-- The error names the text as it was given. -/
theorem input_of_parse {input : String} {e : ParseError} (h : parse input = .error e) :
    e.input = input := by
  unfold parse at h
  split at h
  · cases h
  · cases h; rfl

end NumericRule

end Hiring
