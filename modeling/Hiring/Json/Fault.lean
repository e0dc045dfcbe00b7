import Hiring.Json.Writer
import Hiring.Text.Quoted

/-!
# Faults of documents

What can be wrong with a document from which a value of some type is wanted.

* `Found` — what stands where something else is wanted.
* `Fault` — the causes.
* `Fault.message` — their wording; faults of the text itself have one wording in common.
* `Fault.isData` — the text is JSON as far as it was read, but says the wrong thing.
-/

namespace Hiring.Json

/-- What stands at a place. -/
inductive Found where
  | null
  | bool (value : Bool)
  | integer (value : Int)
  | real (value : Binary64)
  | string (value : String)
  | sequence
  | map
deriving DecidableEq

/-- Why no value can be had from a document. -/
inductive Fault where
  /-- The text is not JSON, nests too deep, or holds a number or string that cannot be read. -/
  | malformed
  /-- A text does not say a time. -/
  | unreadableTime
  /-- Something else stands where a value of a kind is wanted. -/
  | wrongType (found : Found) (wanted : String)
  /-- A sequence has another number of items than wanted. -/
  | wrongLength (found : Nat) (wanted : String)
  /-- An object lacks a field. -/
  | missingField (name : String)
  /-- An object has a field twice. -/
  | duplicateField (name : String)
  /-- A name is none of the known ones. -/
  | unknownVariant (name : String) (known : List String)
deriving DecidableEq

/-- What stands at a place, in words. -/
def Found.words : Found → String
  | .null => "null"
  | .bool b => "boolean `" ++ (if b then "true" else "false") ++ "`"
  | .integer n => "integer `" ++ String.ofList (integerChars n) ++ "`"
  | .real x => "floating point `" ++ String.ofList (realChars x) ++ "`"
  | .string s => "string " ++ Text.quoted s
  | .sequence => "sequence"
  | .map => "map"

/-- The names that are known, in words. -/
def Fault.alternatives (known : List String) : String :=
  match known.map fun name => "`" ++ name ++ "`" with
  | [] => "no variants"
  | [a] => a
  | [a, b] => a ++ " or " ++ b
  | names => "one of " ++ ", ".intercalate names

/-- The wording of a fault. -/
def Fault.message : Fault → String
  | .malformed => "syntax error"
  | .unreadableTime => "syntax error"
  | .wrongType found wanted => "invalid type: " ++ found.words ++ ", expected " ++ wanted
  | .wrongLength n wanted => s!"invalid length {n}, expected " ++ wanted
  | .missingField name => "missing field `" ++ name ++ "`"
  | .duplicateField name => "duplicate field `" ++ name ++ "`"
  | .unknownVariant name known =>
    "unknown variant `" ++ name ++ "`, expected " ++ alternatives known

/-- The text could be read but does not say what is wanted. -/
def Fault.isData : Fault → Bool
  | .malformed => false
  | _ => true

end Hiring.Json
