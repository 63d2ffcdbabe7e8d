import Mathlib.Data.List.Basic
import Wordbook.Json.Reader
import Wordbook.Json.Writer

/-!
# Scalars in JSON that are read back

A whole number of 64 bits is read from its digits, as far as they go, and a text
with whatever characters is read up to its closing quote.

* `Reader.Ends`: what may stand behind a number;
* `Reader.literal?_number`: a whole number;
* `Reader.escape_cases`: the three ways in which a character is written;
* `Reader.text?_flatMap_escape`: a text.
-/

namespace Wordbook.Json

namespace Reader

open Writer Text

/-- Nothing that a number could go on with. -/
def Ends (t : List Char) : Prop := ∀ c ∈ t.head?, !isDigit c ∧ c ≠ '.' ∧ c ≠ 'e' ∧ c ≠ 'E'

theorem ends_nil : Ends [] := nofun

theorem ends_cons {c : Char} {t : List Char} (h : !isDigit c ∧ c ≠ '.' ∧ c ≠ 'e' ∧ c ≠ 'E') :
    Ends (c :: t) := by
  rintro _ ⟨⟩
  exact h

variable {t rest : List Char}

theorem isDigit_of_mem_toDigits {n : Nat} {c : Char} (h : c ∈ Nat.toDigits 10 n) : isDigit c :=
  Nat.isDigit_of_mem_toDigits (by decide) (Nat.le_refl _) h

/-- Only zero is written with a zero in front. -/
theorem head?_toDigits_ne_zero {n : Nat} (hn : 0 < n) :
    (Nat.toDigits 10 n).head? ≠ some '0' := by
  induction n using Nat.strongRecOn with
  | ind n ih =>
    by_cases hlt : n < 10
    · rw [Nat.toDigits_of_lt_base hlt]
      have hdigit : ∀ d < 10, 0 < d → [Nat.digitChar d].head? ≠ some '0' := by decide
      exact hdigit n hlt hn
    · have hdiv := ih (n / 10) (by omega) (by omega)
      rw [Nat.toDigits_of_base_le (by decide) (by omega),
        List.head?_append_of_ne_nil _ Nat.toDigits_ne_nil]
      exact hdiv

theorem digits?_append {ds : List Char} (hds : ∀ c ∈ ds, isDigit c) (hne : ds ≠ [])
    (hrest : Ends rest) : digits? (ds ++ rest) = some (ds, rest) := by
  have htake : rest.takeWhile isDigit = [] ∧ rest.dropWhile isDigit = rest := by
    cases rest with
    | nil => exact ⟨rfl, rfl⟩
    | cons c t =>
      have hc : isDigit c = false := by simpa using (hrest c rfl).1
      simp [List.takeWhile, List.dropWhile, hc]
  rw [digits?, List.takeWhile_append_of_pos hds, List.dropWhile_append_of_pos hds, htake.1, htake.2,
    List.append_nil]
  simp [hne]

/-- Digits are added for as long as what comes out is a number of 64 bits. -/
theorem addDigits_eq {n : Nat} (h : Nat.ofDigitChars 10 t n ≤ maxWord) :
    addDigits n t = (Nat.ofDigitChars 10 t n, t.length) := by
  induction t generalizing n with
  | nil => rw [addDigits, Nat.ofDigitChars_nil, List.length_nil]
  | cons c t ih =>
    rw [Nat.ofDigitChars_cons, Nat.mul_comm] at h
    have hle : n * 10 + digitValue c ≤ maxWord := by
      refine Nat.le_trans ?_ h
      rw [Nat.ofDigitChars_eq_ofDigitChars_zero]
      exact Nat.le_trans (Nat.le_mul_of_pos_left _ (Nat.pow_pos (by decide))) (Nat.le_add_right ..)
    rw [addDigits, if_pos hle, ih (n := n * 10 + digitValue c) h, Nat.ofDigitChars_cons,
      Nat.mul_comm 10, List.length_cons]
    rfl

/-- The digits of a number, up to something that ends them. -/
theorem unsigned?_toDigits (negative : Bool) (n : Nat) (hrest : Ends rest) :
    unsigned? negative (Nat.toDigits 10 n ++ rest) =
      some (⟨negative, Nat.toDigits 10 n, none, none⟩, rest) := by
  have hzero : ¬((Nat.toDigits 10 n).length > 1 ∧ (Nat.toDigits 10 n).head? = some '0') := by
    rintro ⟨hlength, hhead⟩
    rcases Nat.eq_zero_or_pos n with rfl | hn
    · exact absurd hlength (by decide)
    · exact head?_toDigits_ne_zero hn hhead
  have hfraction : fraction? rest = some (none, rest) := by
    unfold fraction?
    split
    · exact absurd rfl (hrest '.' rfl).2.1
    · rfl
  have hexponent : exponent? rest = some (none, rest) := by
    cases rest with
    | nil => rfl
    | cons c t =>
      obtain ⟨-, -, he, hE⟩ := hrest c rfl
      simp [exponent?, he, hE]
  rw [unsigned?, digits?_append (fun _ => isDigit_of_mem_toDigits) Nat.toDigits_ne_nil hrest]
  simp [hzero, hfraction, hexponent]

theorem value?_toDigits {n : Nat} (h : n ≤ maxWord) (negative : Bool)
    (hnegative : negative → 0 < n ∧ n ≤ Nat.pow 2 63) :
    (Literal.mk negative (Nat.toDigits 10 n) none none).value? =
      some (.whole (if negative then -n else n)) := by
  have hvalue := Nat.ofDigitChars_ten_toDigits (n := n)
  have hadd : addDigits 0 (Nat.toDigits 10 n) = (n, (Nat.toDigits 10 n).length) := by
    rw [addDigits_eq (hvalue.symm ▸ h), hvalue]
  rw [Literal.value?]
  cases negative with
  | false => simp [hadd]
  | true => simp [hadd, hnegative rfl]

theorem number_ofNat (n : Nat) : Writer.number (.whole n) = Nat.toDigits 10 n := by
  show (toString n).toList = _
  rw [Nat.toString_eq_ofList_toDigits, String.toList_ofList]

theorem number_negSucc (n : Nat) :
    Writer.number (.whole (.negSucc n)) = '-' :: Nat.toDigits 10 (n + 1) := by
  show ("-" ++ Nat.repr (n + 1)).toList = _
  rw [String.toList_append, Nat.toList_repr]
  rfl

/-- A number begins with its sign or with a digit. -/
abbrev BeginsNumber (c : Char) : Prop := c = '-' ∨ isDigit c

theorem exists_number_eq_cons (n : Int) :
    ∃ c t, Writer.number (.whole n) = c :: t ∧ BeginsNumber c := by
  cases n with
  | ofNat n =>
    obtain ⟨c, t, ht⟩ := List.exists_cons_of_ne_nil (Nat.toDigits_ne_nil (n := n) (b := 10))
    have hc : c ∈ Nat.toDigits 10 n := ht ▸ List.mem_cons_self
    exact ⟨c, t, (number_ofNat n).trans ht, .inr (isDigit_of_mem_toDigits hc)⟩
  | negSucc n => exact ⟨'-', _, number_negSucc n, .inl rfl⟩

/-- A whole number that is kept as it is. -/
def IsWord (n : Int) : Prop := -(Nat.pow 2 63 : Nat) ≤ n ∧ n ≤ maxWord

/-- A whole number of 64 bits is written in digits that are read as this number. -/
theorem literal?_number {n : Int} (hn : IsWord n) (hrest : Ends rest) :
    ∃ l, literal? (Writer.number (.whole n) ++ rest) = some (l, rest) ∧
      l.value? = some (.whole n) := by
  obtain ⟨hlow, hhigh⟩ := hn
  cases n with
  | ofNat n =>
    refine ⟨_, ?_, value?_toDigits (n := n) (Int.ofNat_le.1 hhigh) false nofun⟩
    show literal? (Writer.number (.whole n) ++ rest) = _
    rw [number_ofNat, ← unsigned?_toDigits false n hrest, literal?]
    -- Digits do not begin with a sign.
    intro t ht
    have hminus : '-' ∈ Nat.toDigits 10 n := by
      refine List.mem_of_mem_head? (Option.mem_def.2 ?_)
      rw [← List.head?_append_of_ne_nil _ Nat.toDigits_ne_nil, ht]
      rfl
    exact absurd (isDigit_of_mem_toDigits hminus) (by decide)
  | negSucc n =>
    have hn : n + 1 ≤ Nat.pow 2 63 := by omega
    refine ⟨_, ?_, value?_toDigits (n := n + 1) (Nat.le_trans hn (by decide)) true
      fun _ => ⟨Nat.succ_pos n, hn⟩⟩
    rw [number_negSucc, ← unsigned?_toDigits true (n + 1) hrest]
    rfl

/-! ## Texts -/

theorem hexValue?_hexDigit : ∀ d < 16, hexValue? (hexDigit d) = some d := by decide

/-- A character that stands for itself between quotes. -/
abbrev StandsForItself (c : Char) : Prop := c ≠ '"' ∧ c ≠ '\\' ∧ ¬c < ' '

theorem quoted?_cons {c : Char} (h : StandsForItself c) (t : List Char) :
    quoted? (c :: t) = (quoted? t).map fun (body, rest) => (c :: body, rest) := by
  obtain ⟨hquote, hbackslash, hcontrol⟩ := h
  simp [quoted?, hbackslash, hcontrol]

/-- A character is written by a letter, by its number or as it is. -/
theorem escape_cases (c : Char) :
    (∃ d, escape c = ['\\', d] ∧ shortEscapes.lookup d = some c) ∨
    (c < ' ' ∧ escape c =
      ['\\', 'u', '0', '0', hexDigit (c.toNat / 16), hexDigit (c.toNat % 16)]) ∨
    (escape c = [c] ∧ StandsForItself c) := by
  unfold escape
  split_ifs with h₁ h₂ h₃ h₄ h₅ h₆ h₇ h₈
  · exact .inl ⟨'"', rfl, by rw [h₁]; rfl⟩
  · exact .inl ⟨'\\', rfl, by rw [h₂]; rfl⟩
  · exact .inl ⟨'b', rfl, h₃ ▸ rfl⟩
  · exact .inl ⟨'f', rfl, h₄ ▸ rfl⟩
  · exact .inl ⟨'n', rfl, h₅ ▸ rfl⟩
  · exact .inl ⟨'r', rfl, h₆ ▸ rfl⟩
  · exact .inl ⟨'t', rfl, h₇ ▸ rfl⟩
  · exact .inr (.inl ⟨h₈, rfl⟩)
  · exact .inr (.inr ⟨rfl, h₁, h₂, h₈⟩)

/-- No closing quote is found inside a character. -/
theorem quoted?_escape (c : Char) (t : List Char) : quoted? (escape c ++ t) =
    (quoted? t).map fun (body, rest) => (escape c ++ body, rest) := by
  rcases escape_cases c with ⟨d, hc, -⟩ | ⟨hcontrol, hc⟩ | ⟨hc, hplain⟩
  · rw [hc]
    rfl
  · have hdigit : ∀ d < 16, StandsForItself (hexDigit d) := by decide
    have hcode : c.toNat < 32 := hcontrol
    have hhigh := hdigit (c.toNat / 16) (by omega)
    have hlow := hdigit (c.toNat % 16) (by omega)
    have hzero : StandsForItself '0' := by decide
    simp [hc, quoted?, quoted?_cons hzero, quoted?_cons hhigh, quoted?_cons hlow, Function.comp_def]
  · rw [hc]
    exact quoted?_cons hplain t

/-- What a character is read as. -/
theorem exists_piece (c : Char) : ∃ p,
    (∀ t, pieces? (escape c ++ t) = (pieces? t).map (p :: ·)) ∧
    ∀ ps, join? (p :: ps) = (join? ps).map (c :: ·) := by
  rcases escape_cases c with ⟨d, hc, hd⟩ | ⟨hcontrol, hc⟩ | ⟨hc, -, hbackslash, -⟩
  · have hne : d ≠ 'u' := by
      rintro rfl
      nomatch hd
    refine ⟨.char c, fun t => ?_, fun ps => rfl⟩
    rw [hc]
    simp [pieces?, hne, hd]
    cases pieces? t <;> rfl
  · have hlt : c.toNat < 32 := hcontrol
    have hunit : hexUnit? '0' '0' (hexDigit (c.toNat / 16)) (hexDigit (c.toNat % 16)) =
        some c.toNat := by
      have hhigh := hexValue?_hexDigit (c.toNat / 16) (by omega)
      have hlow := hexValue?_hexDigit (c.toNat % 16) (by omega)
      have hzero : hexValue? '0' = some 0 := rfl
      rw [hexUnit?, hzero, hhigh, hlow]
      simp
      omega
    refine ⟨.unit c.toNat, fun t => ?_, fun ps => ?_⟩
    · rw [hc]
      simp [pieces?, hunit]
      cases pieces? t <;> rfl
    · have hlead : isLeadSurrogate c.toNat = false := by
        simp [isLeadSurrogate]
        omega
      have htrail : isTrailSurrogate c.toNat = false := by
        simp [isTrailSurrogate]
        omega
      rw [join?.eq_def]
      simp [hlead, htrail, Char.ofNat_toNat]
  · refine ⟨.char c, fun t => ?_, fun ps => rfl⟩
    simp [hc, pieces?, hbackslash]
    cases pieces? t <;> rfl

/-- A text is read up to its closing quote. -/
theorem text?_flatMap_escape (s : String) (rest : List Char) :
    text? (s.toList.flatMap escape ++ '"' :: rest) = some (some s, rest) := by
  have hquoted (cs : List Char) : quoted? (cs.flatMap escape ++ '"' :: rest) =
      some (cs.flatMap escape, rest) := by
    induction cs with
    | nil => rfl
    | cons c cs ih =>
      rw [List.flatMap_cons, List.append_assoc, quoted?_escape, ih]
      rfl
  have hpieces (cs : List Char) :
      ∃ ps, pieces? (cs.flatMap escape) = some ps ∧ join? ps = some cs := by
    induction cs with
    | nil => exact ⟨[], rfl, rfl⟩
    | cons c cs ih =>
      obtain ⟨ps, hps, hjoin⟩ := ih
      obtain ⟨p, hp, hc⟩ := exists_piece c
      refine ⟨p :: ps, ?_, ?_⟩
      · rw [List.flatMap_cons, hp, hps]
        rfl
      · rw [hc, hjoin]
        rfl
  obtain ⟨ps, hps, hjoin⟩ := hpieces s.toList
  rw [text?, hquoted]
  simp [hps, hjoin]

end Reader

end Wordbook.Json
