import Hiring.Json.Document
import Hiring.Json.Fault

/-!
# Values of a type from documents

* `Place` — where a document stands: how many brackets may still be opened, and whether it comes
  from a value that is already known as a whole.
* `Decoder` — reads a value of a type from a document, or gives the first fault.
* `Decoder.string`, `Decoder.bool`, `Decoder.real`, `Decoder.json`, `Decoder.optional`,
  `Decoder.list`, `Decoder.variant` — the decoders that records are made of.
* `Decoder.ofText`, `Decoder.ofPrefix`, `Decoder.ofJson` — a value from a whole text, from the
  front of a text, and from a known value.
-/

namespace Hiring.Json

/-- Where a document stands. -/
structure Place where
  /-- How many more arrays and objects may be opened, one inside the other. -/
  room : Nat
  /-- The document was known as a whole before anything was read from it. -/
  whole : Bool

/-- At most this many arrays and objects may stand inside each other. -/
def Place.depthLimit : Nat := 127

/-- The outermost place of a text. -/
def Place.ofText : Place := ⟨Place.depthLimit, false⟩

/-- The outermost place of a known value. -/
def Place.ofJson : Place := ⟨Place.depthLimit, true⟩

/-- The place inside one more bracket. -/
def Place.enter (p : Place) : Except Fault Place :=
  match p.room with
  | 0 => .error .malformed
  | room + 1 => .ok { p with room }

/-- A way to read a value of a type. -/
def Decoder (α : Type) : Type := Place → Document → Except Fault α

namespace Decoder

variable {α : Type}

/-- The fault of a document that stands where something else is wanted.  Of a bracket only the
opening is looked at. -/
def mismatch (wanted : String) : Document → Fault
  | .null => .wrongType .null wanted
  | .bool b => .wrongType (.bool b) wanted
  | .number (some (.integer n _)) => .wrongType (.integer n) wanted
  | .number (some (.real x _)) => .wrongType (.real x) wanted
  | .number none => .malformed
  | .string (some s) => .wrongType (.string s) wanted
  | .string none => .malformed
  | .array _ _ => .wrongType .sequence wanted
  | .object _ _ => .wrongType .map wanted
  | .broken => .malformed

/-! ## Plain values -/

/-- A text. -/
def string : Decoder String := fun _ d =>
  match d with
  | .string (some s) => .ok s
  | d => .error (mismatch "a string" d)

/-- A truth value. -/
def bool : Decoder Bool := fun _ d =>
  match d with
  | .bool b => .ok b
  | d => .error (mismatch "a boolean" d)

/-- A floating-point number; an integer is taken for the nearest one. -/
def real : Decoder Binary64 := fun _ d =>
  match d with
  | .number (some n) => .ok n.toBinary64
  | d => .error (mismatch "f64" d)

/-- A value of any kind where `null` stands for none. -/
def optional (decode : Decoder α) : Decoder (Option α) := fun p d =>
  match d with
  | .null => .ok none
  | d => (decode p d).map some

/-! ## Values of any kind -/

mutual

/-- The value of a document, if all of it can be read. -/
def value? (room : Nat) : Document → Option Json
  | .null => some .null
  | .bool b => some (.bool b)
  | .number n => n.map .number
  | .string s => s.map .string
  | .array items closed =>
    match room with
    | 0 => none
    | room + 1 => if closed then (items? room items).map .array else none
  | .object fields closed =>
    match room with
    | 0 => none
    | room + 1 => if closed then (fields? room fields).map canonical else none
  | .broken => none

/-- The values of the items of an array. -/
def items? (room : Nat) : List Document → Option (List Json)
  | [] => some []
  | d :: rest =>
    match value? room d, items? room rest with
    | some j, some js => some (j :: js)
    | _, _ => none

/-- The names and values of the fields of an object. -/
def fields? (room : Nat) : List (Option String × Document) → Option (List (String × Json))
  | [] => some []
  | (name, d) :: rest =>
    match name, value? room d, fields? room rest with
    | some name, some j, some js => some ((name, j) :: js)
    | _, _, _ => none

end

/-- Any value. -/
def json : Decoder Json := fun p d =>
  match value? p.room d with
  | some j => .ok j
  | none => .error .malformed

/-! ## Lists and maps -/

/-- A list of values. -/
def list (decode : Decoder α) : Decoder (List α) := fun p d =>
  match d with
  | .array items closed => do
    let inside ← p.enter
    let values ← items.mapM (decode inside)
    if closed then .ok values else .error .malformed
  | d => .error (mismatch "a sequence" d)

/-- The entries of an object with values of one type, in the order of the text. -/
def entries (decode : Decoder α) : Decoder (List (String × α)) := fun p d =>
  match d with
  | .object fields closed => do
    let inside ← p.enter
    let values ← fields.mapM fun (name, d) =>
      match name with
      | some name => do return (name, ← decode inside d)
      | none => .error .malformed
    if closed then .ok values else .error .malformed
  | d => .error (mismatch "a map" d)

/-! ## Names out of a list -/

/-- The meaning of a name. -/
def named (known : List (String × α)) (name : String) : Except Fault α :=
  match known.lookup name with
  | some a => .ok a
  | none => .error (.unknownVariant name (known.map (·.1)))

/-- A name that says which variant is meant. -/
def tag (known : List (String × α)) : Decoder α := fun _ d =>
  match d with
  | .string (some s) => named known s
  | d => .error (mismatch "variant identifier" d)

/-- One of several variants without data: its name, or an object with the name as its only field
and `null` as the value. -/
def variant (known : List (String × α)) : Decoder α := fun p d =>
  match d with
  | .string (some s) => named known s
  | .object ((some name, value) :: rest) closed => do
    let _ ← p.enter
    let a ← named known name
    match value with
    | .null => if rest.isEmpty && closed then .ok a else .error .malformed
    | value => .error (mismatch "unit" value)
  | _ => .error .malformed

/-! ## Where documents come from -/

/-- A value from a text that holds nothing else. -/
def ofText (decode : Decoder α) (text : String) : Except Fault α := do
  let (d, trailing) := Document.read text
  let a ← decode .ofText d
  if trailing then .error .malformed else .ok a

/-- A value from the front of a text; what follows it is not looked at. -/
def ofPrefix (decode : Decoder α) (text : String) : Except Fault α :=
  decode .ofText (Document.read text).1

/-- A value from a known value. -/
def ofJson (decode : Decoder α) (j : Json) : Except Fault α :=
  decode .ofJson (Document.ofJson j)

end Decoder

end Hiring.Json
