import Hiring.Text.Ascii

/-!
# Percent-encoded texts

In an address a percent sign with two digits of base sixteen stands for a byte.  A percent sign
that is not followed by two digits stands for itself.

* `percentBytes` — the bytes of a text with its escapes resolved.
* `percentDecode?` — the text of those bytes, if they are valid UTF-8.
-/

namespace Hiring.Text

/-- The bytes of some bytes with percent escapes. -/
def percentBytes : List UInt8 → List UInt8
  | 0x25 :: a :: b :: rest =>
    match hexValue? (Char.ofNat a.toNat), hexValue? (Char.ofNat b.toNat) with
    | some high, some low => UInt8.ofNat (16 * high + low) :: percentBytes rest
    | _, _ => 0x25 :: percentBytes (a :: b :: rest)
  | byte :: rest => byte :: percentBytes rest
  | [] => []

/-- The text that a percent-encoded text stands for. -/
def percentDecode? (s : String) : Option String :=
  String.fromUTF8? ⟨(percentBytes s.toUTF8.toList).toArray⟩

/-- Bytes without a percent sign stay as they are. -/
theorem percentBytes_of_not_mem {bytes : List UInt8} (h : (0x25 : UInt8) ∉ bytes) :
    percentBytes bytes = bytes := by
  fun_induction percentBytes bytes <;> simp_all

end Hiring.Text
