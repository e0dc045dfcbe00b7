import Hiring.Text.Ascii
import Hiring.Text.Pieces

/-!
# Network addresses

* `IpAddress` — an address of four bytes or of eight groups of sixteen bits.
* `IpAddress.ofText?` — reading an address: four decimal numbers between points, or groups in base
  sixteen between colons, of which one run of zero groups may be left out and the last two may be
  written as four bytes.
* `IpAddress.text` — writing it: the longest run of at least two zero groups is left out.
* `SocketAddress` — an address with a port.
-/

namespace Hiring.Network

open Text

/-- An address. -/
inductive IpAddress where
  | v4 (bytes : List Nat)
  | v6 (groups : List Nat)
deriving Repr, DecidableEq

namespace IpAddress

/-- The address that names the machine itself. -/
def loopback : IpAddress := .v4 [127, 0, 0, 1]

/-- A byte in decimal digits without leading zeros. -/
def byte? (cs : List Char) : Option Nat :=
  if cs.isEmpty || 3 < cs.length || !cs.all isDigit || (cs.head? == some '0' && 1 < cs.length) then
    none
  else if digitsValue cs < 256 then some (digitsValue cs)
  else none

/-- Four bytes between points. -/
def bytes? (cs : List Char) : Option (List Nat) :=
  let parts := pieces '.' cs
  if parts.length = 4 then parts.mapM byte? else none

/-- The number of some digits of base sixteen. -/
def hexNumber? (cs : List Char) : Option Nat :=
  cs.foldl (fun n c => do return 16 * (← n) + (← hexValue? c)) (some 0)

/-- A group of one to four digits of base sixteen. -/
def group? (cs : List Char) : Option Nat :=
  if cs.isEmpty || 4 < cs.length then none else hexNumber? cs

/-- Groups between colons; the last two of them may be written as four bytes. -/
def groups? : List (List Char) → Option (List Nat)
  | [] => some []
  | [last] =>
    match group? last, bytes? last with
    | some group, _ => some [group]
    | none, some [a, b, c, d] => some [256 * a + b, 256 * c + d]
    | none, _ => none
  | part :: rest => do return (← group? part) :: (← groups? rest)

/-- Groups between colons, of which there may be none. -/
def side? (cs : List Char) : Option (List Nat) :=
  if cs.isEmpty then some [] else groups? (pieces ':' cs)

/-- The parts before and after the first two colons in a row. -/
def atGap? : List Char → Option (List Char × List Char)
  | ':' :: ':' :: rest => some ([], rest)
  | c :: rest => (atGap? rest).map fun (before, after) => (c :: before, after)
  | [] => none

/-- An address of eight groups. -/
def sixteenBitGroups? (cs : List Char) : Option (List Nat) := do
  match atGap? cs with
  | none =>
    let groups ← groups? (pieces ':' cs)
    if groups.length = 8 then some groups else none
  | some (before, after) =>
    let head ← if before.isEmpty then some [] else (pieces ':' before).mapM group?
    let tail ← side? after
    if head.length + tail.length ≤ 7 then
      some (head ++ List.replicate (8 - head.length - tail.length) 0 ++ tail)
    else none

/-- The address that a text says. -/
def ofText? (s : String) : Option IpAddress :=
  match bytes? s.toList with
  | some bytes => some (.v4 bytes)
  | none => (sixteenBitGroups? s.toList).map .v6

/-! ## Written form -/

/-- Bytes between points. -/
def bytesChars (bytes : List Nat) : List Char := ['.'].intercalate (bytes.map decimalDigits)

/-- Groups between colons. -/
def groupsChars (groups : List Nat) : List Char := [':'].intercalate (groups.map hexDigits)

/-- The number of zero groups at the front. -/
def zerosAhead (groups : List Nat) : Nat := (groups.takeWhile (· == 0)).length

/-- The longest run of zero groups, the first of several: where it starts and how long it is. -/
def longestZeros (groups : List Nat) : Nat × Nat :=
  (List.range groups.length).foldl
    (fun best start =>
      let length := zerosAhead (groups.drop start)
      if best.2 < length then (start, length) else best)
    (0, 0)

/-- Eight groups as they are written. -/
def sixteenBitChars (groups : List Nat) : List Char :=
  match groups with
  | [0, 0, 0, 0, 0, 0xFFFF, high, low] =>
    "::ffff:".toList ++ bytesChars [high / 256, high % 256, low / 256, low % 256]
  | groups =>
    let (start, length) := longestZeros groups
    if 1 < length then
      groupsChars (groups.take start) ++ ':' :: ':' :: groupsChars (groups.drop (start + length))
    else groupsChars groups

/-- The address as it is written. -/
def text : IpAddress → String
  | .v4 bytes => String.ofList (bytesChars bytes)
  | .v6 groups => String.ofList (sixteenBitChars groups)

end IpAddress

/-- An address with a port. -/
structure SocketAddress where
  address : IpAddress
  port : Nat
deriving Repr, DecidableEq

/-- The address and the port as they are written; groups stand in brackets. -/
def SocketAddress.text (e : SocketAddress) : String :=
  match e.address with
  | .v4 _ => e.address.text ++ ":" ++ String.ofList (decimalDigits e.port)
  | .v6 _ => "[" ++ e.address.text ++ "]:" ++ String.ofList (decimalDigits e.port)

end Hiring.Network
