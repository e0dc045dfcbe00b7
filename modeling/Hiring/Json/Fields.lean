import Hiring.Json.Decoder

/-!
# Records from documents

A record is written as an object, its fields in any order and others among them, or as an array
of its fields in their order.  The fields of a record type are described once, by `Fields`, and
both forms follow from the description.

* `Fields` — the fields of a record and how the record is made of them; an applicative functor.
* `Fields.required`, `Fields.nullable`, `Fields.defaulted` — a field that must be there; one that
  may be left out of an object; one that may be left out of both forms.
* `Decoder.record` — the decoder of a record.

An object is read field by field, and so a wrong or repeated field is reported before a later one;
that a field is missing is known at the closing brace only.
-/

namespace Hiring.Json

/-- How a field is named and what may stand in it. -/
structure Field where
  /-- The name of the field. -/
  name : String
  /-- Another name by which the field may go. -/
  otherName : Option String
  /-- The faults of a document in the place of the field. -/
  check : Decoder Unit

/-- The documents of the fields of one record. -/
structure Slots where
  /-- The place of the documents. -/
  place : Place
  /-- The document of a field. -/
  get? : String → Option Document
  /-- The record is written as an array. -/
  positional : Bool
  /-- The fault of a record without a field. -/
  missing : String → Fault

/-- The fields of a record, and how the record is made of their documents. -/
structure Fields (α : Type) where
  /-- The fields in their order. -/
  fields : List Field
  /-- The record. -/
  build : Slots → Except Fault α

namespace Fields

variable {α β : Type}

instance : Applicative Fields where
  pure a := ⟨[], fun _ => .ok a⟩
  seq f x := ⟨f.fields ++ (x ()).fields, fun s => do return (← f.build s) (← (x ()).build s)⟩

/-- One field, and what is done without a document for it. -/
def single (name : String) (decode : Decoder α) (without : Slots → Except Fault α) : Fields α where
  fields := [⟨name, none, fun p d => (decode p d).map fun _ => ()⟩]
  build s :=
    match s.get? name with
    | some d => decode s.place d
    | none => without s

/-- A field that must be there. -/
def required (name : String) (decode : Decoder α) : Fields α :=
  single name decode fun s => .error (s.missing name)

/-- A field that may be `null`, and may be left out of an object. -/
def nullable (name : String) (decode : Decoder α) : Fields (Option α) :=
  single name decode.optional fun s =>
    if s.positional then .error (s.missing name) else .ok none

/-- A field that has a value of its own when it is left out. -/
def defaulted (name : String) (decode : Decoder α) (value : α) : Fields α :=
  single name decode fun _ => .ok value

/-- The same fields, the first of which also goes by another name. -/
def orNamed (fs : Fields α) (name : String) : Fields α :=
  { fs with
    fields :=
      match fs.fields with
      | f :: rest => { f with otherName := some name } :: rest
      | [] => [] }

/-- The field that goes by a name. -/
def find? (fields : List Field) (name : String) : Option Field :=
  fields.find? fun f => f.name == name || f.otherName == some name

/-- The documents of the known fields of an object, read in order; those of other fields have to
be complete. -/
def gather (fields : List Field) (inside : Place) (seen : List (String × Document)) :
    List (Option String × Document) → Except Fault (List (String × Document))
  | [] => .ok seen
  | (none, _) :: _ => .error .malformed
  | (some name, d) :: rest =>
    match find? fields name with
    | none => if d.isComplete then gather fields inside seen rest else .error .malformed
    | some f =>
      if (seen.lookup f.name).isSome then .error (.duplicateField f.name)
      else
        match f.check inside d with
        | .ok _ => gather fields inside ((f.name, d) :: seen) rest
        | .error fault => .error fault

/-- A record written as an object. -/
def fromObject (fs : Fields α) (inside : Place) (fields : List (Option String × Document))
    (closed : Bool) : Except Fault α := do
  let seen ← gather fs.fields inside [] fields
  if closed then fs.build ⟨inside, fun name => seen.lookup name, false, .missingField⟩ else .error .malformed

/-- A number of elements, in words. -/
def elements (n : Nat) : String := if n = 1 then "1 element" else s!"{n} elements"

/-- A record written as an array. -/
def fromArray (fs : Fields α) (kind : String) (inside : Place) (items : List Document)
    (closed : Bool) : Except Fault α := do
  let names := fs.fields.map (·.name)
  let missing name :=
    if closed then
      .wrongLength (names.idxOf name) ("struct " ++ kind ++ " with " ++ elements names.length)
    else .malformed
  let a ← fs.build ⟨inside, fun name => (names.zip items).lookup name, true, missing⟩
  if names.length < items.length then
    .error (if inside.whole then .wrongLength items.length "fewer elements in array" else .malformed)
  else if closed then .ok a
  else .error .malformed

end Fields

/-- A record of a kind with the given fields. -/
def Decoder.record {α : Type} (kind : String) (fs : Fields α) : Decoder α := fun p d =>
  match d with
  | .object fields closed => do fs.fromObject (← p.enter) fields closed
  | .array items closed => do fs.fromArray kind (← p.enter) items closed
  | d => .error (mismatch ("struct " ++ kind) d)

end Hiring.Json
