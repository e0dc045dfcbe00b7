import Hiring.Binary64.Basic
import Hiring.Keyed

/-!
# JSON values

* `Json.Number` — an integer of sixty-four bits, with or without sign, or a finite floating-point
  number.
* `Json` — the values; the fields of an object stand in the order in which they are written.
* `Json.canonical` — an object as a reader keeps it: fields in the order of their names, the last
  of several fields with one name.
-/

namespace Hiring

/-- The smallest integer of sixty-four bits with a sign. -/
def Json.leastInteger : Int := -0x8000000000000000

/-- The greatest integer of sixty-four bits without a sign. -/
def Json.greatestInteger : Int := 0xFFFFFFFFFFFFFFFF

/-- A number in a document: an integer that fits sixty-four bits, or a finite number. -/
inductive Json.Number where
  /-- An integer. -/
  | integer (value : Int) (inRange : Json.leastInteger ≤ value ∧ value ≤ Json.greatestInteger)
  /-- Any other number. -/
  | real (value : Binary64) (isFinite : value.isFinite = true)
deriving DecidableEq

/-- A JSON value. -/
inductive Json where
  | null
  | bool (value : Bool)
  | number (value : Json.Number)
  | string (value : String)
  | array (items : List Json)
  | object (fields : List (String × Json))
deriving BEq

namespace Json

instance : Inhabited Json := ⟨.null⟩

namespace Number

/-- The nearest floating-point number. -/
def toBinary64 : Number → Binary64
  | .integer n _ => Binary64.ofInt n
  | .real x _ => x

/-- The integer, if it fits sixty-four bits. -/
def ofInt? (n : Int) : Option Number :=
  if h : leastInteger ≤ n ∧ n ≤ greatestInteger then some (.integer n h) else none

/-- The number, if it is finite. -/
def ofBinary64? (x : Binary64) : Option Number :=
  if h : x.isFinite = true then some (.real x h) else none

/-- A number made of a finite floating-point number is read back as that number. -/
theorem toBinary64_of_ofBinary64? {x : Binary64} {n : Number} (h : ofBinary64? x = some n) :
    n.toBinary64 = x := by
  unfold ofBinary64? at h
  split at h
  · cases h; rfl
  · cases h

end Number

/-- A floating-point number as a value; what is not finite becomes `null`. -/
def ofBinary64 (x : Binary64) : Json :=
  match Number.ofBinary64? x with
  | some n => .number n
  | none => .null

/-- An optional value; what is missing becomes `null`. -/
def ofOption {α : Type} (f : α → Json) : Option α → Json
  | some a => f a
  | none => .null

/-- A list of texts. -/
def ofStrings (items : List String) : Json := .array (items.map .string)

/-- An object as a reader keeps it: in the order of the names, the last field of each name. -/
def canonical (fields : List (String × Json)) : Json := .object (Keyed.ofList fields).entries

/-- The value of a field of an object. -/
def field? (name : String) : Json → Option Json
  | .object fields => fields.lookup name
  | _ => none

end Json

end Hiring
