import Hiring.Decimal.Numeral
import Hiring.Json.Scaling

/-!
# The tokens of a JSON text

A text is cut into brackets, separators, words, numerals and strings.  The first place where no
token stands gives `Token.junk`, and nothing after it is looked at.

* `Token` — the tokens; a numeral too large for the number format and a string with a lone half of
  a surrogate pair are tokens without a value, since text of that kind may be skipped but not read.
* `Token.ofChars` — the tokens of a text.
* `stringBody?`, `numeral?` — the two tokens of variable length, with the text after them.

Each token takes text away (`first_length`), so that the cutting ends.
-/

namespace Hiring.Json

open Text

/-- A piece of a JSON text. -/
inductive Token where
  | openArray
  | closeArray
  | openObject
  | closeObject
  | comma
  | colon
  | null
  | bool (value : Bool)
  /-- A numeral; without a value if it is too large. -/
  | number (value : Option Number)
  /-- A string; without a value if an escape in it is half of a pair. -/
  | string (value : Option String)
  /-- Text that is no token. -/
  | junk

/-- The four characters that may stand between tokens. -/
def isGap (c : Char) : Bool := c = ' ' || c = '\n' || c = '\r' || c = '\t'

/-! ## Strings -/

/-- The character that an escape letter stands for. -/
def unescape? (c : Char) : Option Char :=
  match c with
  | '"' => some '"'
  | '\\' => some '\\'
  | '/' => some '/'
  | 'b' => some '\x08'
  | 'f' => some '\x0c'
  | 'n' => some '\n'
  | 'r' => some '\r'
  | 't' => some '\t'
  | _ => none

/-- The number of four digits of base sixteen. -/
def hex4? (a b c d : Char) : Option Nat := do
  let a ← hexValue? a
  let b ← hexValue? b
  let c ← hexValue? c
  let d ← hexValue? d
  return ((a * 16 + b) * 16 + c) * 16 + d

/-- The code units of a string up to its closing quote, and the text after the quote.  An escape
with four digits gives one unit, which may be half of a pair. -/
def stringBody? : List Char → Option (List Nat × List Char)
  | '"' :: rest => some ([], rest)
  | '\\' :: 'u' :: a :: b :: c :: d :: rest =>
    match hex4? a b c d, stringBody? rest with
    | some unit, some (units, after) => some (unit :: units, after)
    | _, _ => none
  | '\\' :: e :: rest =>
    match unescape? e, stringBody? rest with
    | some c, some (units, after) => some (c.toNat :: units, after)
    | _, _ => none
  | c :: rest =>
    if c = '\\' || c.toNat < 0x20 then none
    else
      match stringBody? rest with
      | some (units, after) => some (c.toNat :: units, after)
      | none => none
  | [] => none

/-- The first half of a pair. -/
def isHighHalf (n : Nat) : Bool := 0xD800 ≤ n && n < 0xDC00

/-- The second half of a pair. -/
def isLowHalf (n : Nat) : Bool := 0xDC00 ≤ n && n < 0xE000

/-- The characters of code units: two halves make one character, and a lone half none. -/
def joinUnits? : List Nat → Option (List Char)
  | [] => some []
  | high :: low :: rest =>
    if isHighHalf high then
      if isLowHalf low then
        (joinUnits? rest).map
          (Char.ofNat (0x10000 + (high - 0xD800) * 0x400 + (low - 0xDC00)) :: ·)
      else none
    else if isLowHalf high then none
    else (joinUnits? (low :: rest)).map (Char.ofNat high :: ·)
  | [unit] => if isHighHalf unit || isLowHalf unit then none else some [Char.ofNat unit]

/-! ## Numerals -/

/-- The digits at the front of a text and the rest of it, if there is at least one. -/
def digits? (cs : List Char) : Option (List Char × List Char) :=
  let ds := cs.takeWhile isDigit
  if ds.isEmpty then none else some (ds, cs.dropWhile isDigit)

/-- The whole part of a numeral: zero, or digits that do not start with zero. -/
def wholePart? (cs : List Char) : Option (List Char × List Char) :=
  match digits? cs with
  | some ('0' :: _ :: _, _) => none
  | found => found

/-- The fraction of a numeral: nothing, or a point and digits. -/
def fractionPart? : List Char → Option (List Char × List Char)
  | '.' :: rest => digits? rest
  | rest => some ([], rest)

/-- The power of ten of a numeral, `none` if there is none, and the text after it. -/
def powerPart? (cs : List Char) : Option (Option Int × List Char) :=
  match cs with
  | [] => some (none, [])
  | c :: rest =>
    if c = 'e' || c = 'E' then
      let (negative, body) := signed rest
      match digits? body with
      | some (ds, after) =>
        some (some (if negative then -(digitsValue ds : Int) else digitsValue ds), after)
      | none => none
    else some (none, cs)

/-- A minus sign in front of a text, and the text after it. -/
def minus : List Char → Bool × List Char
  | '-' :: rest => (true, rest)
  | rest => (false, rest)

/-- A numeral at the front of a text, and the text after it. -/
def numeral? (cs : List Char) : Option (Option Number × List Char) := do
  let whole ← wholePart? (minus cs).2
  let fraction ← fractionPart? whole.2
  let power ← powerPart? fraction.2
  return (numberOf (minus cs).1 whole.1 fraction.1 power.1, power.2)

/-! ## Every token consumes text -/

theorem stringBody?_length {cs after : List Char} {units : List Nat}
    (h : stringBody? cs = some (units, after)) : after.length < cs.length := by
  fun_induction stringBody? cs generalizing units <;> try simp only [List.length_cons]
  all_goals grind

theorem digits?_length {cs ds after : List Char} (h : digits? cs = some (ds, after)) :
    after.length < cs.length := by
  simp only [digits?] at h
  split at h
  · cases h
  · rename_i hne
    cases h
    have := congrArg List.length (List.takeWhile_append_dropWhile (p := isDigit) (l := cs))
    have hpos : 0 < (cs.takeWhile isDigit).length := by
      cases hds : cs.takeWhile isDigit with
      | nil => simp [hds] at hne
      | cons => simp
    simp only [List.length_append] at this
    omega

theorem wholePart?_length {cs ds after : List Char} (h : wholePart? cs = some (ds, after)) :
    after.length < cs.length := by
  unfold wholePart? at h
  split at h
  · cases h
  · exact digits?_length h

theorem fractionPart?_length {cs ds after : List Char} (h : fractionPart? cs = some (ds, after)) :
    after.length ≤ cs.length := by
  unfold fractionPart? at h
  split at h
  · have := digits?_length h
    simp only [List.length_cons]
    omega
  · cases h
    exact Nat.le_refl _

theorem length_signed (cs : List Char) : (signed cs).2.length ≤ cs.length := by
  unfold signed
  split <;> simp

theorem powerPart?_length {cs after : List Char} {power : Option Int}
    (h : powerPart? cs = some (power, after)) : after.length ≤ cs.length := by
  unfold powerPart? at h
  split at h
  · cases h; simp
  · rename_i c rest
    split at h
    · have hs := length_signed rest
      simp only at h
      split at h
      · rename_i hd
        cases h
        have := digits?_length hd
        simp only [List.length_cons]
        omega
      · cases h
    · cases h
      exact Nat.le_refl _

theorem length_minus (cs : List Char) : (minus cs).2.length ≤ cs.length := by
  unfold minus
  split <;> simp

theorem numeral?_length {cs after : List Char} {value : Option Number}
    (h : numeral? cs = some (value, after)) : after.length < cs.length := by
  simp only [numeral?, Option.bind_eq_bind, Option.bind_eq_some_iff] at h
  obtain ⟨⟨ds, _⟩, hw, ⟨fs, _⟩, hf, ⟨power, _⟩, hp, h⟩ := h
  cases h
  have h₀ := length_minus cs
  have h₁ := wholePart?_length hw
  have h₂ := fractionPart?_length hf
  have h₃ := powerPart?_length hp
  simp only at h₁ h₂ h₃ ⊢
  omega

/-! ## The tokens of a text -/

/-- The token at the front of a text that does not start with a gap, and the text after it. -/
def first (c : Char) (rest : List Char) : Token × List Char :=
  match c with
  | '[' => (.openArray, rest)
  | ']' => (.closeArray, rest)
  | '\x7b' => (.openObject, rest)
  | '\x7d' => (.closeObject, rest)
  | ',' => (.comma, rest)
  | ':' => (.colon, rest)
  | '"' =>
    match stringBody? rest with
    | some (units, after) => (.string ((joinUnits? units).map String.ofList), after)
    | none => (.junk, [])
  | _ =>
    match c :: rest with
    | 'n' :: 'u' :: 'l' :: 'l' :: after => (.null, after)
    | 't' :: 'r' :: 'u' :: 'e' :: after => (.bool true, after)
    | 'f' :: 'a' :: 'l' :: 's' :: 'e' :: after => (.bool false, after)
    | cs =>
      match numeral? cs with
      | some (value, after) => (.number value, after)
      | none => (.junk, [])

theorem first_length (c : Char) (rest : List Char) :
    (first c rest).2.length < (c :: rest).length := by
  unfold first
  split
  all_goals try simp
  · split
    · rename_i h
      have := stringBody?_length h
      simp only
      omega
    · simp
  · split
    · simp_all; omega
    · simp_all; omega
    · simp_all; omega
    · split
      · rename_i h
        have := numeral?_length h
        simpa using this
      · simp

/-- The tokens of a text, up to the first place where none stands. -/
def Token.ofChars (cs : List Char) : List Token :=
  match cs with
  | [] => []
  | c :: rest =>
    if isGap c then Token.ofChars rest
    else
      have := first_length c rest
      (first c rest).1 :: Token.ofChars (first c rest).2
termination_by cs.length
decreasing_by
  · simp
  · exact first_length c rest

end Hiring.Json
