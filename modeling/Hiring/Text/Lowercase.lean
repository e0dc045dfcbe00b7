import Hiring.Text.Ascii
import Hiring.Text.CaseRanges
import Hiring.Text.CodePoints

/-!
# Lower-casing

Allow-lists and answers are compared in lower case, by the full rules of Unicode: every capital
has its small letter, the dotted capital I becomes two characters, and a capital sigma at the end
of a word takes the final form.

* `lowerChar` — the small form of one character, wherever it stands.
* `endsWord` — the position of a final sigma: a cased letter before it and none after it, marks
  that do not count as letters left aside.
* `lowercase` — the small form of a text.
-/

namespace Hiring.Text

/-- A run of capitals covers the code points it steps on. -/
def Lowering.covers (r : Lowering) (n : Nat) : Bool :=
  r.first ≤ n && n ≤ r.last && (n - r.first) % r.step == 0

/-- The small form of a character that stands alone: itself if it has none. -/
def lowerChar (c : Char) : List Char :=
  if c.toNat < 0x80 then [c.toLower]
  else if c.toNat = 0x130 then ['i', Char.ofNat 0x307]
  else
    match lowerings.find? (·.covers c.toNat) with
    | some r => [Char.ofNat (c.toNat + r.offset).toNat]
    | none => [c]

/-- Holds of letters that come in cases. -/
def isCased (c : Char) : Bool := inRanges casedRanges c.toNat

/-- Holds of characters that are passed over when the end of a word is looked for. -/
def isCaseIgnorable (c : Char) : Bool := inRanges caseIgnorableRanges c.toNat

/-- The first character that is not passed over is a cased letter. -/
def reachesCased (cs : List Char) : Bool :=
  match cs.dropWhile isCaseIgnorable with
  | c :: _ => isCased c
  | [] => false

/-- A letter between `before` (the nearest character first) and `after` ends its word. -/
def endsWord (before after : List Char) : Bool := reachesCased before && !reachesCased after

/-- The small form of the characters that follow `before`, which is given backwards. -/
def lowerFrom (before : List Char) : List Char → List Char
  | [] => []
  | c :: rest =>
    let small :=
      if c = 'Σ' then [if endsWord before rest then 'ς' else 'σ'] else lowerChar c
    small ++ lowerFrom (c :: before) rest

/-- The text in lower case. -/
def lowercase (s : String) : String := String.ofList (lowerFrom [] s.toList)

end Hiring.Text
