import Hiring.Decimal.Numeral
import Hiring.Text.Alphanumeric
import Hiring.Text.Ascii

/-!
# Patterns for the values of fields

A filter for the log may ask for the value of a field: a truth value, a number, or a pattern that a
text has to match.  A pattern is made of characters, of sets of characters in square brackets, of
groups, alternatives and repetitions.  Only whether it is well formed matters here.  Sets that name
a property of characters, and the boundaries of words, are no patterns: nothing that is logged is
looked at so closely.

* `isPattern` — the text is a well-formed pattern.
* `isField` — the text names a field, with or without a value to look for.
-/

namespace Hiring.LogFilter

open Text

/-! ## Escapes -/

/-- What a backslash makes of the characters after it. -/
inductive Escaped where
  /-- The character with this code point. -/
  | literal (code : Nat)
  /-- The start or the end of the text. -/
  | anchor

/-- The code point that is written by a number of digits of base sixteen, and the text after
them. -/
def hexLiteral? (width : Nat) (cs : List Char) : Option (Escaped × List Char) := do
  let digits ← (cs.take width).mapM hexValue?
  let code := digits.foldl (fun n d => 16 * n + d) 0
  if digits.length = width ∧ code.isValidChar then some (.literal code, cs.drop width) else none

/-- What stands after a backslash, and the text after it. -/
def escape? : List Char → Option (Escaped × List Char)
  | [] => none
  | c :: rest =>
    match c with
    | 'x' => hexLiteral? 2 rest
    | 'u' => hexLiteral? 4 rest
    | 'U' => hexLiteral? 8 rest
    | 'A' => some (.anchor, rest)
    | 'z' => some (.anchor, rest)
    | 'a' => some (.literal 0x07, rest)
    | 'f' => some (.literal 0x0C, rest)
    | 't' => some (.literal 0x09, rest)
    | 'n' => some (.literal 0x0A, rest)
    | 'r' => some (.literal 0x0D, rest)
    | 'v' => some (.literal 0x0B, rest)
    | '<' => none
    | '>' => none
    | c => if c.toNat < 0x80 && !c.isAlphanum then some (.literal c.toNat, rest) else none

/-! ## Sets -/

/-- The code point of a member of a set, and the text after it. -/
def member? : List Char → Option (Nat × List Char)
  | [] => none
  | '\\' :: rest =>
    match escape? rest with
    | some (.literal code, rest) => some (code, rest)
    | _ => none
  | c :: rest => some (c.toNat, rest)

/-- The text after a member or a range of members, whose ends are in order. -/
def range? (cs : List Char) : Option (List Char) := do
  let (first, rest) ← member? cs
  match rest with
  | '-' :: ']' :: _ => some rest
  | '-' :: '-' :: _ => some rest
  | '-' :: after =>
    let (last, after) ← member? after
    if first ≤ last then some after else none
  | _ => some rest

/-- The text after the opening bracket of a set and what counts as a member there only: hyphens,
or else a closing bracket. -/
def openSet (cs : List Char) : List Char :=
  let cs :=
    match cs with
    | '^' :: rest => rest
    | cs => cs
  match cs with
  | ']' :: rest => rest
  | cs => cs.dropWhile (· = '-')

/-- The text after as many sets, one inside the other, as are open. -/
def closeSet? (opened : Nat) : Nat → List Char → Option (List Char)
  | 0, _ => none
  | fuel + 1, cs =>
    match cs with
    | ']' :: rest => if opened ≤ 1 then some rest else closeSet? (opened - 1) fuel rest
    | '[' :: rest => closeSet? (opened + 1) fuel (openSet rest)
    | '&' :: '&' :: rest => closeSet? opened fuel rest
    | '-' :: '-' :: rest => closeSet? opened fuel rest
    | '~' :: '~' :: rest => closeSet? opened fuel rest
    | cs => (range? cs).bind (closeSet? opened fuel)

/-! ## Groups -/

/-- The text after the name of a group and its closing bracket. -/
def groupName? (cs : List Char) : Option (List Char) :=
  match cs with
  | [] => none
  | c :: _ =>
    if c = '_' || (isAlphanumeric c && !isDigit c) then
      match cs.dropWhile fun c => c = '_' || c = '.' || c = '[' || c = ']' || isAlphanumeric c with
      | '>' :: rest => some rest
      | _ => none
    else none

/-- The letters by which a group changes how the text in it is matched. -/
def isSwitch (c : Char) : Bool := c = 'm' || c = 's' || c = 'U' || c = 'R' || c = 'u' || c = 'x'

/-- The text after the opening of a group, and whether the group stays open. -/
def openGroup? : List Char → Option (List Char × Bool)
  | '?' :: 'P' :: '<' :: rest => (groupName? rest).map (·, true)
  | '?' :: '<' :: rest => (groupName? rest).map (·, true)
  | '?' :: rest =>
    match rest.dropWhile isSwitch with
    | ':' :: after => some (after, true)
    | ')' :: after => if after.length + 1 < rest.length then some (after, false) else none
    | _ => none
  | rest => some (rest, true)

/-! ## Patterns -/

/-- The rest of a pattern in as many groups as are open; `repeatable` holds if it follows something
that may be repeated. -/
def restIsPattern (opened : Nat) (repeatable : Bool) : Nat → List Char → Bool
  | 0, _ => false
  | fuel + 1, cs =>
    match cs with
    | [] => opened == 0
    | '(' :: rest =>
      match openGroup? rest with
      | some (rest, true) => restIsPattern (opened + 1) false fuel rest
      | some (rest, false) => restIsPattern opened false fuel rest
      | none => false
    | ')' :: rest => opened != 0 && restIsPattern (opened - 1) true fuel rest
    | '|' :: rest => restIsPattern opened false fuel rest
    | '[' :: rest =>
      match closeSet? 1 rest.length (openSet rest) with
      | some rest => restIsPattern opened true fuel rest
      | none => false
    | '\\' :: rest =>
      match escape? rest with
      | some (_, rest) => restIsPattern opened true fuel rest
      | none => false
    | '{' :: _ => false
    | c :: rest =>
      if c = '*' || c = '+' || c = '?' then repeatable && restIsPattern opened true fuel rest
      else restIsPattern opened true fuel rest

/-- The text is a well-formed pattern. -/
def isPattern (cs : List Char) : Bool := restIsPattern 0 false (cs.length + 1) cs

/-- The text names a field, with or without a value to look for after an equals sign. -/
def isField (cs : List Char) : Bool :=
  !cs.isEmpty &&
    match cs.dropWhile (· != '=') with
    | '=' :: rest =>
      let value := rest.takeWhile (· != '=')
      (Binary64.ofText? (String.ofList value)).isSome || isPattern value
    | _ => true

end Hiring.LogFilter
