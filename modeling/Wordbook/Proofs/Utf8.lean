import Wordbook.Text.Utf8

/-!
# Texts in UTF-8

The bytes that a text is written in are read back as this text.

* `Utf8.Machine.foldl_bytesOf`: the machine takes in a character and stands
  between two of them again;
* `readUtf8?_writeUtf8`: a text.
-/

namespace Wordbook.Text

namespace Utf8

/-- A byte behind the first one of a character, which holds six bits of its number. -/
def tailByte (n k : Nat) : Nat := 0x80 + n / Nat.pow 0x40 k % 0x40

theorem tailByte_bounds (n k : Nat) : 0x80 ≤ tailByte n k ∧ tailByte n k ≤ 0xBF := by
  have := Nat.mod_lt (n / Nat.pow 0x40 k) (by decide : 0 < 0x40)
  unfold tailByte
  omega

theorem toNat_ofNat_tailByte (n k : Nat) : (UInt8.ofNat (tailByte n k)).toNat = tailByte n k := by
  have := tailByte_bounds n k
  exact UInt8.toNat_ofNat_of_lt' (by simp only [UInt8.size]; omega)

/-- The bytes behind the first one of a character. -/
def tailBytes (n : Nat) : Nat → List UInt8
  | 0 => []
  | k + 1 => .ofNat (tailByte n k) :: tailBytes n k

/-- The bits of a number down to some place, six more of them at a time. -/
theorem div_pow_succ (n k : Nat) :
    n / Nat.pow 0x40 (k + 1) * 0x40 + tailByte n k % 0x40 = n / Nat.pow 0x40 k := by
  have hpow : n / Nat.pow 0x40 (k + 1) = n / Nat.pow 0x40 k / 0x40 := by
    rw [Nat.div_div_eq_div_mul]
    rfl
  unfold tailByte
  omega

namespace Machine

/-- A byte that a character at hand still owes. -/
theorem step_tail {n k low high : Nat} (read : List (Option Char)) (hlow : low ≤ tailByte n k)
    (hhigh : tailByte n k ≤ high) :
    step ⟨.within (n / Nat.pow 0x40 (k + 1)) (k + 1) low high, read⟩ (.ofNat (tailByte n k)) =
      if k = 0 then ⟨.start, some (Char.ofNat n) :: read⟩
      else ⟨.within (n / Nat.pow 0x40 k) k 0x80 0xBF, read⟩ := by
  have hcode := div_pow_succ n k
  simp only [step, toNat_ofNat_tailByte, if_pos (And.intro hlow hhigh), hcode]
  by_cases hk : k = 0
  · subst hk
    simp [Nat.pow]
  · rw [if_neg (by omega), if_neg hk]
    rfl

/-- The bytes that a character at hand still owes. -/
theorem foldl_tailBytes {n k low high : Nat} (read : List (Option Char))
    (hlow : low ≤ tailByte n k) (hhigh : tailByte n k ≤ high) :
    (tailBytes n (k + 1)).foldl step ⟨.within (n / Nat.pow 0x40 (k + 1)) (k + 1) low high, read⟩ =
      ⟨.start, some (Char.ofNat n) :: read⟩ := by
  induction k generalizing low high with
  | zero => exact (step_tail read hlow hhigh).trans (if_pos rfl)
  | succ k ih =>
    have ⟨hlow', hhigh'⟩ := tailByte_bounds n k
    rw [tailBytes, List.foldl_cons, step_tail read hlow hhigh, if_neg (Nat.succ_ne_zero k)]
    exact ih hlow' hhigh'

-- After a first byte, the bounds on the second one keep out numbers that have a shorter form, or
-- that are no characters.

theorem first_two {n : Nat} (read : List (Option Char)) (hlow : 0x80 ≤ n) (hhigh : n < 0x800) :
    first read (0xC0 + n / 0x40) = ⟨.within (n / Nat.pow 0x40 1) 1 0x80 0xBF, read⟩ := by
  have hbits : (0xC0 + n / 0x40) % 0x20 = n / Nat.pow 0x40 1 := by
    show _ = n / 64
    omega
  rw [first, if_neg (by omega), if_pos (by omega), hbits]

theorem first_three {n : Nat} (read : List (Option Char)) (hlow : 0x800 ≤ n) (hhigh : n < 0x10000)
    (hchar : n < 0xD800 ∨ 0xDFFF < n) :
    ∃ low high, first read (0xE0 + n / Nat.pow 0x40 2) =
        ⟨.within (n / Nat.pow 0x40 2) 2 low high, read⟩ ∧
      low ≤ tailByte n 1 ∧ tailByte n 1 ≤ high := by
  have hsecond : tailByte n 1 = 0x80 + n / 64 % 64 := rfl
  simp only [hsecond, show Nat.pow 0x40 2 = 4096 from rfl]
  unfold first
  by_cases hzero : n / 4096 = 0
  · refine ⟨0xA0, 0xBF, ?_, by omega, by omega⟩
    simp [hzero]
  · by_cases hd : n / 4096 = 0xD
    · refine ⟨0x80, 0x9F, ?_, by omega, by omega⟩
      simp [hd]
    · refine ⟨0x80, 0xBF, ?_, by omega, by omega⟩
      have hbits : (0xE0 + n / 4096) % 0x10 = n / 4096 := by omega
      rw [if_neg (by omega), if_neg (by omega), if_neg (by omega), if_neg (by omega),
        if_pos (by omega), hbits]

theorem first_four {n : Nat} (read : List (Option Char)) (hlow : 0x10000 ≤ n)
    (hhigh : n < 0x110000) :
    ∃ low high, first read (0xF0 + n / Nat.pow 0x40 3) =
        ⟨.within (n / Nat.pow 0x40 3) 3 low high, read⟩ ∧
      low ≤ tailByte n 2 ∧ tailByte n 2 ≤ high := by
  have hsecond : tailByte n 2 = 0x80 + n / 4096 % 64 := rfl
  simp only [hsecond, show Nat.pow 0x40 3 = 262144 from rfl]
  unfold first
  by_cases hzero : n / 262144 = 0
  · refine ⟨0x90, 0xBF, ?_, by omega, by omega⟩
    simp [hzero]
  · by_cases hfour : n / 262144 = 4
    · refine ⟨0x80, 0x8F, ?_, by omega, by omega⟩
      simp [hfour]
    · refine ⟨0x80, 0xBF, ?_, by omega, by omega⟩
      have hbits : (0xF0 + n / 262144) % 8 = n / 262144 := by omega
      rw [if_neg (by omega), if_neg (by omega), if_neg (by omega), if_neg (by omega),
        if_neg (by omega), if_neg (by omega), if_neg (by omega), if_pos (by omega), hbits]

theorem step_first (read : List (Option Char)) {b : Nat} (h : b < 0x100) :
    step ⟨.start, read⟩ (.ofNat b) = first read b := by
  rw [step, UInt8.toNat_ofNat_of_lt' h]

/-- Between two characters the bytes of a character are read as this character. -/
theorem foldl_bytesOf (c : Char) (read : List (Option Char)) :
    (bytesOf c).foldl step ⟨.start, read⟩ = ⟨.start, some c :: read⟩ := by
  have hvalid : c.toNat < 0xD800 ∨ 0xDFFF < c.toNat ∧ c.toNat < 0x110000 := c.valid
  have hc : Char.ofNat c.toNat = c := Char.ofNat_toNat c
  unfold bytesOf
  generalize c.toNat = n at hvalid hc
  dsimp only
  split
  · rename_i hone
    rw [List.foldl_cons, List.foldl_nil, step_first read (by omega), first, if_pos (by omega), hc]
  split
  · rename_i hone htwo
    have ⟨hlow, hhigh⟩ := tailByte_bounds n 0
    rw [List.foldl_cons, step_first read (by omega), first_two read (by omega) htwo, ← hc]
    exact foldl_tailBytes read hlow hhigh
  split
  · rename_i hone htwo hthree
    obtain ⟨low, high, hfirst, hlow, hhigh⟩ :=
      first_three read (Nat.le_of_not_lt htwo) hthree (by omega)
    have hbyte : n / Nat.pow 0x40 2 < 0x10 := Nat.div_lt_of_lt_mul hthree
    rw [List.foldl_cons, step_first read (by omega), hfirst, ← hc]
    exact foldl_tailBytes read hlow hhigh
  · rename_i hone htwo hthree
    obtain ⟨low, high, hfirst, hlow, hhigh⟩ :=
      first_four (n := n) read (Nat.le_of_not_lt hthree) (by omega)
    have hbyte : n / Nat.pow 0x40 3 < 8 := by
      show n / 262144 < 8
      omega
    rw [List.foldl_cons, step_first read (by omega), hfirst, ← hc]
    exact foldl_tailBytes read hlow hhigh

end Machine

theorem foldl_writeUtf8 (t : List Char) (read : List (Option Char)) :
    (writeUtf8 t).foldl Machine.step ⟨.start, read⟩ = ⟨.start, (t.map some).reverse ++ read⟩ := by
  induction t generalizing read with
  | nil => rfl
  | cons c t ih =>
    rw [writeUtf8, List.flatMap_cons, List.foldl_append, Machine.foldl_bytesOf, ← writeUtf8, ih]
    simp

theorem decode_writeUtf8 (t : List Char) : decode (writeUtf8 t) = t.map some := by
  rw [decode, foldl_writeUtf8, Machine.finish]
  simp

end Utf8

theorem readUtf8?_writeUtf8 (t : List Char) : readUtf8? (writeUtf8 t) = some t := by
  simp [readUtf8?, Utf8.decode_writeUtf8]

end Wordbook.Text
