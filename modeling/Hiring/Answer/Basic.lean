import Hiring.Decimal.Positional
import Hiring.Json.Writer
import Hiring.Text.Blank

/-!
# Answers

What an applicant enters into one field of a form.

* `Answer` — a value without objects; the items of a list are answers again.
* `Answer.isBlank` — nothing was entered.
* `Answer.number?` — the finite number that an answer says, as a number or as text.
* `Answer.toText` — the answer as text, the items of a list between commas.
* `Answer.ofJson`, `Answer.toJson` — the answer in a document; an object in a document is kept as
  its own text.
-/

namespace Hiring

/-- The value of one field of a form. -/
inductive Answer where
  | null
  | flag (value : Bool)
  | number (value : Binary64)
  | text (value : String)
  | list (items : List Answer)
deriving BEq

namespace Answer

instance : Inhabited Answer := ⟨.null⟩

/-- Nothing was entered: no value, or the empty text. -/
def isBlank : Answer → Bool
  | .null => true
  | .text s => s == ""
  | _ => false

/-- The number that an answer says: a number as it is, a text as a numeral with blanks around it.
Only finite numbers count. -/
def number? : Answer → Option Binary64
  | .number x => if x.isFinite then some x else none
  | .text s => Binary64.finiteOfText? (Text.trim s)
  | _ => none

/-- A truth value as text. -/
def flagText (b : Bool) : String := if b then "true" else "false"

mutual

/-- The answer as text. -/
def toText : Answer → String
  | .null => ""
  | .flag b => flagText b
  | .number x => x.text
  | .text s => s
  | .list items => ",".intercalate (texts items)

/-- Each answer as text. -/
def texts : List Answer → List String
  | [] => []
  | a :: rest => toText a :: texts rest

end

mutual

/-- The answer that a value in a document says. -/
def ofJson : Json → Answer
  | .null => .null
  | .bool b => .flag b
  | .number n => .number n.toBinary64
  | .string s => .text s
  | .array items => .list (ofItems items)
  | .object fields => .text (Json.object fields).compact

/-- The answers that the items of an array say. -/
def ofItems : List Json → List Answer
  | [] => []
  | j :: rest => ofJson j :: ofItems rest

end

mutual

/-- The answer as a value in a document; a number that is not finite becomes `null`. -/
def toJson : Answer → Json
  | .null => .null
  | .flag b => .bool b
  | .number x => Json.ofBinary64 x
  | .text s => .string s
  | .list items => .array (toItems items)

/-- The answers as items of an array. -/
def toItems : List Answer → List Json
  | [] => []
  | a :: rest => toJson a :: toItems rest

end

theorem texts_eq_map (items : List Answer) : texts items = items.map toText := by
  induction items with
  | nil => rfl
  | cons a rest ih => simp [texts, ih]

theorem ofItems_eq_map (items : List Json) : ofItems items = items.map ofJson := by
  induction items with
  | nil => rfl
  | cons a rest ih => simp [ofItems, ih]

theorem toItems_eq_map (items : List Answer) : toItems items = items.map toJson := by
  induction items with
  | nil => rfl
  | cons a rest ih => simp [toItems, ih]

/-- The numeric reading of an answer is finite. -/
theorem isFinite_of_number? {a : Answer} {x : Binary64} (h : a.number? = some x) :
    x.isFinite = true := by
  cases a with
  | number y =>
    simp only [number?] at h
    split at h
    · cases h; assumption
    · cases h
  | text s => exact Binary64.isFinite_of_finiteOfText? h
  | null => cases h
  | flag b => cases h
  | list items => cases h

end Answer

end Hiring
