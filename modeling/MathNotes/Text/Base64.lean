import MathNotes.Text.Word

/-!
# Bytes in base 64

Three bytes are written as four characters of an alphabet of 64 (`base64Value?`). What is missing at
the end is filled up with equals signs, and the bits that are left over must be zero (`ofBase64?`).
-/

namespace MathNotes.Text

/-- The value of `c` below 64, or `none` if `c` is not in the alphabet. -/
def base64Value? (c : Char) : Option Nat :=
  if 'A' ≤ c && c ≤ 'Z' then some (c.toNat - 65)
  else if 'a' ≤ c && c ≤ 'z' then some (c.toNat - 71)
  else if c.isDigit then some (c.toNat + 4)
  else if c = '+' then some 62
  else if c = '/' then some 63
  else none

/-- The bytes that groups of four characters stand for. A last group that ends in `==` or `=` stands
for one or two bytes, and the four or two bits it has left over must be zero. -/
def ofBase64? : Text → Option (List UInt8)
  | [] => some []
  | [a, b, '=', '='] => do
    let n := 64 * (← base64Value? a) + (← base64Value? b)
    if n % 16 = 0 then return [UInt8.ofNat (n / 16)] else none
  | [a, b, c, '='] => do
    let n := 4096 * (← base64Value? a) + 64 * (← base64Value? b) + (← base64Value? c)
    if n % 4 = 0 then return [UInt8.ofNat (n / 1024), UInt8.ofNat (n / 4)] else none
  | a :: b :: c :: d :: rest => do
    let n := 262144 * (← base64Value? a) + 4096 * (← base64Value? b) +
      64 * (← base64Value? c) + (← base64Value? d)
    return UInt8.ofNat (n / 65536) :: UInt8.ofNat (n / 256) :: UInt8.ofNat n ::
      (← ofBase64? rest)
  | _ => none

/-- The text whose UTF-8 bytes `s` spells by `ofBase64?`, ASCII white space not counting. -/
def textOfBase64? (s : Text) : Option Text := do
  let isSpace (c : Char) : Bool := c = ' ' || c = '\t' || c = '\n' || c = '\r' || c = '\x0c'
  let bytes ← ofBase64? (s.filter fun c => !isSpace c)
  return (← String.fromUTF8? ⟨bytes.toArray⟩).toList

end MathNotes.Text
