/-!
# UTF-8

The decoder of RFC 3629 as a machine that takes one byte at a time. It answers
with a list of `Option Char`: `none` stands for the longest start of a character
that the bytes do not complete, or for a byte that starts none.

* `readUtf8?`: the text of a byte string that is UTF-8 throughout;
* `readUtf8`: the text with U+FFFD in the place of each `none`;
* `writeUtf8`: the bytes of a text.
-/

namespace Wordbook.Text

/-- What stands for bytes that hold no character. -/
def replacementChar : Char := '\uFFFD'

namespace Utf8

/-- Where the machine stands between two bytes. -/
inductive State where
  /-- Between two characters. -/
  | start
  /-- Inside a character: its bits so far, the bytes still owed, and the bounds on the next. -/
  | within (code owed low high : Nat)
  deriving DecidableEq, Repr

/-- The machine after some bytes: where it stands, and what it has read, last first. -/
structure Machine where
  state : State
  read : List (Option Char)

/-- A byte from between two characters. -/
def Machine.first (read : List (Option Char)) (b : Nat) : Machine :=
  if b ≤ 0x7F then ⟨.start, some (Char.ofNat b) :: read⟩
  else if 0xC2 ≤ b ∧ b ≤ 0xDF then ⟨.within (b % 0x20) 1 0x80 0xBF, read⟩
  else if b = 0xE0 then ⟨.within 0 2 0xA0 0xBF, read⟩
  else if b = 0xED then ⟨.within 0xD 2 0x80 0x9F, read⟩
  else if 0xE1 ≤ b ∧ b ≤ 0xEF then ⟨.within (b % 0x10) 2 0x80 0xBF, read⟩
  else if b = 0xF0 then ⟨.within 0 3 0x90 0xBF, read⟩
  else if b = 0xF4 then ⟨.within 4 3 0x80 0x8F, read⟩
  else if 0xF1 ≤ b ∧ b ≤ 0xF3 then ⟨.within (b % 8) 3 0x80 0xBF, read⟩
  else ⟨.start, none :: read⟩

/-- One byte. One that cannot go on with the character at hand ends it and starts another. -/
def Machine.step (m : Machine) (byte : UInt8) : Machine :=
  let b := byte.toNat
  match m.state with
  | .start => first m.read b
  | .within code owed low high =>
    if low ≤ b ∧ b ≤ high then
      let code := code * 0x40 + b % 0x40
      if owed = 1 then ⟨.start, some (Char.ofNat code) :: m.read⟩
      else ⟨.within code (owed - 1) 0x80 0xBF, m.read⟩
    else first (none :: m.read) b

/-- What has been read when the bytes end: a character at hand stays incomplete. -/
def Machine.finish (m : Machine) : List (Option Char) :=
  match m.state with
  | .start => m.read.reverse
  | .within .. => (none :: m.read).reverse

/-- The characters of a byte string, with `none` for bytes that hold none. -/
def decode (bytes : List UInt8) : List (Option Char) :=
  (bytes.foldl Machine.step ⟨.start, []⟩).finish

end Utf8

/-- The text that is written in UTF-8 as these bytes. -/
def readUtf8? (bytes : List UInt8) : Option (List Char) :=
  let cs := Utf8.decode bytes
  if cs.all Option.isSome then some (cs.filterMap id) else none

/-- The text of these bytes, with U+FFFD for what is not UTF-8. -/
def readUtf8 (bytes : List UInt8) : List Char :=
  (Utf8.decode bytes).map fun c => c.getD replacementChar

/-- The bytes of a character. -/
def Utf8.bytesOf (c : Char) : List UInt8 :=
  let n := c.toNat
  let tail (k : Nat) : UInt8 := .ofNat (0x80 + n / Nat.pow 0x40 k % 0x40)
  if n < 0x80 then [.ofNat n]
  else if n < 0x800 then [.ofNat (0xC0 + n / 0x40), tail 0]
  else if n < 0x10000 then [.ofNat (0xE0 + n / Nat.pow 0x40 2), tail 1, tail 0]
  else [.ofNat (0xF0 + n / Nat.pow 0x40 3), tail 2, tail 1, tail 0]

/-- The bytes of a text in UTF-8. -/
def writeUtf8 (t : List Char) : List UInt8 := t.flatMap Utf8.bytesOf

end Wordbook.Text
