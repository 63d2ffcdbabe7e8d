import Wordbook.Text.Utf8

/-!
# Base 64

Bytes written as characters of six bits each, four to a group, with equals signs
for the characters that the last group lacks.

* `base64Bytes?`: the bytes that a text writes. Each byte string is written in
  one way only.
-/

namespace Wordbook.Text

/-- The six bits that a character stands for. -/
def sextet? (c : Char) : Option Nat :=
  if 'A' ≤ c && c ≤ 'Z' then some (c.toNat - 'A'.toNat)
  else if 'a' ≤ c && c ≤ 'z' then some (c.toNat - 'a'.toNat + 26)
  else if '0' ≤ c && c ≤ '9' then some (c.toNat - '0'.toNat + 52)
  else if c = '+' then some 62
  else if c = '/' then some 63
  else none

/-- The bytes of a number of bits, which are the high ones of a group. -/
def groupBytes (bits count : Nat) : List UInt8 :=
  ([bits / 0x10000, bits / 0x100, bits].take count).map UInt8.ofNat

/-- The bytes that a text writes. The bits that are left over in the last group are zero. -/
def base64Bytes? : List Char → Option (List UInt8)
  | [] => some []
  | [a, b, '=', '='] => do
    let bits := (← sextet? a) * 0x40000 + (← sextet? b) * 0x1000
    if bits % 0x10000 = 0 then some (groupBytes bits 1) else none
  | [a, b, c, '='] => do
    let bits := (← sextet? a) * 0x40000 + (← sextet? b) * 0x1000 + (← sextet? c) * 0x40
    if bits % 0x100 = 0 then some (groupBytes bits 2) else none
  | a :: b :: c :: d :: t => do
    let bits := (← sextet? a) * 0x40000 + (← sextet? b) * 0x1000 + (← sextet? c) * 0x40 +
      (← sextet? d)
    return groupBytes bits 3 ++ (← base64Bytes? t)
  | _ => none

end Wordbook.Text
