import Hiring.Json.Token

/-!
# Documents as they are read

A reader that wants a value of some type meets the first fault of a document from left to right,
whether it is a fault of the type or of the text.  So the tree of a document keeps everything in
the order of the text: every field, also one whose name occurs twice, and the place where the text
stops being JSON.

* `Document` — the tree.
* `Document.read` — the tree of a text, and whether more text follows it.
* `Document.ofJson` — the tree of a value that is already known.
* `Document.isComplete` — the text of the tree is JSON; sizes of numbers and halves of pairs are
  not looked at.

The tree is built by a machine with a stack (`Frame`) of the arrays and objects that are open.
-/

namespace Hiring.Json

/-- A document as far as it can be read. -/
inductive Document where
  | null
  | bool (value : Bool)
  /-- A number; without a value if it is too large. -/
  | number (value : Option Number)
  /-- A string; without a value if it holds half of a pair. -/
  | string (value : Option String)
  /-- The items up to the closing bracket, or up to the place where the text breaks off. -/
  | array (items : List Document) (closed : Bool)
  /-- The fields up to the closing brace, or up to the place where the text breaks off. -/
  | object (fields : List (Option String × Document)) (closed : Bool)
  /-- A place where a value should stand and none does. -/
  | broken

namespace Document

/-- An array or object that is open, with what was read of it, the last part first. -/
inductive Frame where
  | array (before : List Document)
  | field (before : List (Option String × Document)) (name : Option String)

/-- What may come next. -/
inductive Mode where
  /-- A value. -/
  | value
  /-- The first item or the closing bracket. -/
  | firstItem
  /-- A comma or the closing bracket. -/
  | afterItem (before : List Document)
  /-- The first name or the closing brace. -/
  | firstName
  /-- A name. -/
  | name (before : List (Option String × Document))
  /-- The colon after a name. -/
  | colon (before : List (Option String × Document)) (name : Option String)
  /-- A comma or the closing brace. -/
  | afterField (before : List (Option String × Document))

/-- How a step ends. -/
inductive Progress where
  /-- More tokens are wanted. -/
  | more (mode : Mode) (stack : List Frame)
  /-- The outermost value is complete. -/
  | done (document : Document)
  /-- The text breaks off, and this is what was read of the innermost value. -/
  | failed (inner : Document) (stack : List Frame)

/-- What was read of the innermost value when the text breaks off. -/
def unfinished : Mode → Document
  | .value => .broken
  | .firstItem => .array [] false
  | .afterItem before => .array before.reverse false
  | .firstName => .object [] false
  | .name before => .object before.reverse false
  | .colon before name => .object ((name, .broken) :: before).reverse false
  | .afterField before => .object before.reverse false

/-- The outermost value, when the text breaks off inside it. -/
def wrap (inner : Document) : List Frame → Document
  | [] => inner
  | .array before :: stack => wrap (.array (inner :: before).reverse false) stack
  | .field before name :: stack => wrap (.object ((name, inner) :: before).reverse false) stack

/-- A value is complete. -/
def complete (d : Document) : List Frame → Progress
  | [] => .done d
  | .array before :: stack => .more (.afterItem (d :: before)) stack
  | .field before name :: stack => .more (.afterField ((name, d) :: before)) stack

/-- The value that a single token makes. -/
def ofToken? : Token → Option Document
  | .null => some .null
  | .bool b => some (.bool b)
  | .number n => some (.number n)
  | .string s => some (.string s)
  | _ => none

/-- A value starts. -/
def start (t : Token) (stack : List Frame) : Progress :=
  match t with
  | .openArray => .more .firstItem stack
  | .openObject => .more .firstName stack
  | t =>
    match ofToken? t with
    | some d => complete d stack
    | none => .failed .broken stack

/-- One token is read. -/
def step (mode : Mode) (stack : List Frame) (t : Token) : Progress :=
  match mode, t with
  | .value, t => start t stack
  | .firstItem, .closeArray => complete (.array [] true) stack
  | .firstItem, t => start t (.array [] :: stack)
  | .afterItem before, .comma => .more .value (.array before :: stack)
  | .afterItem before, .closeArray => complete (.array before.reverse true) stack
  | .firstName, .closeObject => complete (.object [] true) stack
  | .firstName, .string name => .more (.colon [] name) stack
  | .name before, .string name => .more (.colon before name) stack
  | .colon before name, .colon => .more .value (.field before name :: stack)
  | .afterField before, .comma => .more (.name before) stack
  | .afterField before, .closeObject => complete (.object before.reverse true) stack
  | mode, _ => .failed (unfinished mode) stack

/-- The document of the tokens, and whether tokens are left after it. -/
def run (mode : Mode) (stack : List Frame) : List Token → Document × Bool
  | [] => (wrap (unfinished mode) stack, false)
  | t :: ts =>
    match step mode stack t with
    | .more mode stack => run mode stack ts
    | .done d => (d, !ts.isEmpty)
    | .failed inner stack => (wrap inner stack, false)

/-- The document of a text, and whether more than gaps follows it. -/
def read (text : String) : Document × Bool := run .value [] (Token.ofChars text.toList)

/-! ## Documents of known values -/

mutual

/-- The document of a value. -/
def ofJson : Json → Document
  | .null => .null
  | .bool b => .bool b
  | .number n => .number (some n)
  | .string s => .string (some s)
  | .array items => .array (ofItems items) true
  | .object fields => .object (ofFields fields) true

/-- The documents of the items of an array. -/
def ofItems : List Json → List Document
  | [] => []
  | item :: rest => ofJson item :: ofItems rest

/-- The documents of the fields of an object. -/
def ofFields : List (String × Json) → List (Option String × Document)
  | [] => []
  | (name, value) :: rest => (some name, ofJson value) :: ofFields rest

end

/-! ## Text that may be skipped -/

mutual

/-- The text of the document is JSON. -/
def isComplete : Document → Bool
  | .array items closed => closed && areComplete items
  | .object fields closed => closed && fieldsAreComplete fields
  | .broken => false
  | _ => true

/-- The text of all items is JSON. -/
def areComplete : List Document → Bool
  | [] => true
  | d :: rest => isComplete d && areComplete rest

/-- The text of all fields is JSON. -/
def fieldsAreComplete : List (Option String × Document) → Bool
  | [] => true
  | (_, d) :: rest => isComplete d && fieldsAreComplete rest

end

mutual

/-- A known value is complete. -/
theorem isComplete_ofJson : (j : Json) → isComplete (ofJson j) = true
  | .null | .bool _ | .number _ | .string _ => rfl
  | .array items => by simp [ofJson, isComplete, areComplete_ofItems items]
  | .object fields => by simp [ofJson, isComplete, fieldsAreComplete_ofFields fields]

theorem areComplete_ofItems : (items : List Json) → areComplete (ofItems items) = true
  | [] => rfl
  | item :: rest => by
    simp [ofItems, areComplete, isComplete_ofJson item, areComplete_ofItems rest]

theorem fieldsAreComplete_ofFields :
    (fields : List (String × Json)) → fieldsAreComplete (ofFields fields) = true
  | [] => rfl
  | (_, value) :: rest => by
    simp [ofFields, fieldsAreComplete, isComplete_ofJson value, fieldsAreComplete_ofFields rest]

end

end Document

end Hiring.Json
