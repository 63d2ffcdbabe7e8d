import Mathlib.Data.List.Chain
import Wordbook.Grammar.Base
import Wordbook.Proofs.Trim

/-!
# Parentheses in words

A parenthesis that is part of a word is written with a backslash before it. The
word is read back, and none of its parentheses looks like a sign of a wrong cut.

* `Multi.escape`: a word as it is written;
* `Multi.unescape_escape`: reading it gives the word;
* `Multi.hasBareParenthesis_escape_append`: no parenthesis in it is bare.
-/

namespace Wordbook.Multi

open Text

/-- A text with a backslash before each of some characters. -/
def escapeEach (marks t : List Char) : List Char :=
  t.flatMap fun c => if c ∈ marks then ['\\', c] else [c]

def parentheses : List Char := ['(', ')']

/-- A text with a backslash before each parenthesis. -/
def escape (t : List Char) : List Char := escapeEach parentheses t

section

variable {marks t : List Char} {c : Char}

theorem escapeEach_cons_of_mem (h : c ∈ marks) :
    escapeEach marks (c :: t) = '\\' :: c :: escapeEach marks t := by
  rw [escapeEach, List.flatMap_cons, if_pos h]
  rfl

theorem escapeEach_cons_of_not_mem (h : c ∉ marks) :
    escapeEach marks (c :: t) = c :: escapeEach marks t := by
  rw [escapeEach, List.flatMap_cons, if_neg h]
  rfl

theorem escapeEach_nil (t : List Char) : escapeEach [] t = t := by
  induction t with
  | nil => rfl
  | cons c t ih => rw [escapeEach_cons_of_not_mem List.not_mem_nil, ih]

theorem mem_escape {t : List Char} {c : Char} (h : c ∈ escape t) : c = '\\' ∨ c ∈ t := by
  obtain ⟨d, hd, hc⟩ := List.mem_flatMap.1 h
  split at hc
  · rcases List.mem_cons.1 hc with rfl | hc
    · exact .inl rfl
    · exact .inr (List.mem_singleton.1 hc ▸ hd)
  · exact .inr (List.mem_singleton.1 hc ▸ hd)

theorem mem_escape_of_mem (h : c ∈ t) : c ∈ escape t := by
  refine List.mem_flatMap.2 ⟨c, h, ?_⟩
  split <;> simp

end

section

variable {c d : Char} {t : List Char}

theorem dropEscapes_cons_of_ne (h : d ≠ '\\') : dropEscapes c (d :: t) = d :: dropEscapes c t := by
  cases t with
  | nil => rfl
  | cons e t => simp [dropEscapes, h]

theorem dropEscapes_escape : dropEscapes c ('\\' :: c :: t) = c :: dropEscapes c t := by
  simp [dropEscapes]

theorem dropEscapes_backslash (h : ∀ e ∈ t.head?, e ≠ c) :
    dropEscapes c ('\\' :: t) = '\\' :: dropEscapes c t := by
  cases t with
  | nil => rfl
  | cons e t =>
    have he : e ≠ c := h e rfl
    simp [dropEscapes, he]

end

theorem head?_escapeEach_ne {marks t : List Char} {c e : Char} (hc : c ∈ marks) (hne : c ≠ '\\')
    (h : e ∈ (escapeEach marks t).head?) : e ≠ c := by
  cases t with
  | nil => nomatch h
  | cons d t =>
    by_cases hd : d ∈ marks
    · rw [escapeEach_cons_of_mem hd] at h
      obtain rfl := Option.some.inj h
      exact hne.symm
    · rw [escapeEach_cons_of_not_mem hd] at h
      obtain rfl := Option.some.inj h
      rintro rfl
      exact hd hc

/-- The backslashes before one character are taken away, those before the others stay. -/
theorem dropEscapes_escapeEach {marks : List Char} {c : Char} (hne : c ≠ '\\') (hc : c ∉ marks)
    (hmarks : '\\' ∉ marks) (t : List Char) :
    dropEscapes c (escapeEach (c :: marks) t) = escapeEach marks t := by
  have hbackslash : '\\' ∉ c :: marks := by
    rw [List.mem_cons, not_or]
    exact ⟨hne.symm, hmarks⟩
  induction t with
  | nil => rfl
  | cons d t ih =>
    by_cases hd : d ∈ c :: marks
    · rw [escapeEach_cons_of_mem hd]
      rcases List.mem_cons.1 hd with rfl | hd'
      · rw [dropEscapes_escape, ih, escapeEach_cons_of_not_mem hc]
      · -- The backslash of another mark stays, and so does the mark behind it.
        have hdc : d ≠ c := by
          rintro rfl
          exact hc hd'
        have hdb : d ≠ '\\' := by
          rintro rfl
          exact hmarks hd'
        rw [dropEscapes_backslash (by simpa using hdc), dropEscapes_cons_of_ne hdb, ih,
          escapeEach_cons_of_mem hd']
    · have hd' : d ∉ marks := fun h => hd (List.mem_cons_of_mem _ h)
      rw [escapeEach_cons_of_not_mem hd, escapeEach_cons_of_not_mem hd', ← ih]
      by_cases hdb : d = '\\'
      · subst hdb
        exact dropEscapes_backslash fun e he => head?_escapeEach_ne List.mem_cons_self hne he
      · exact dropEscapes_cons_of_ne hdb

/-- Whatever stands before its parentheses, a word is read back as it was. -/
theorem unescape_escape (t : List Char) : unescape (escape t) = t := by
  rw [unescape, escape, parentheses, dropEscapes_escapeEach (by decide) (by decide) (by decide),
    dropEscapes_escapeEach (by decide) (by decide) (by decide), escapeEach_nil]

theorem escape_ne_nil {t : List Char} (h : t ≠ []) : escape t ≠ [] := by
  obtain ⟨c, t, rfl⟩ := List.exists_cons_of_ne_nil h
  exact List.ne_nil_of_mem (mem_escape_of_mem List.mem_cons_self)

theorem getLast?_escape (t : List Char) : (escape t).getLast? = t.getLast? := by
  induction t using List.reverseRecOn with
  | nil => rfl
  | append_singleton t c _ =>
    rw [escape, escapeEach, List.flatMap_append, List.flatMap_singleton]
    split <;> simp

theorem trim_escape {t : List Char} (h : trim t = t) : trim (escape t) = escape t := by
  rw [trim_eq_self_iff] at h ⊢
  rw [getLast?_escape]
  refine ⟨fun c hc => ?_, h.2⟩
  cases t with
  | nil => nomatch hc
  | cons d t =>
    by_cases hd : d ∈ parentheses
    · rw [escape, escapeEach_cons_of_mem hd] at hc
      obtain rfl := Option.some.inj hc
      decide
    · rw [escape, escapeEach_cons_of_not_mem hd] at hc
      exact h.1 c hc

/-- No backslash stands right before a parenthesis. -/
def IsUnescaped (t : List Char) : Prop := t.IsChain fun c d => c = '\\' → d ∉ parentheses

instance (t : List Char) : Decidable (IsUnescaped t) :=
  inferInstanceAs (Decidable (t.IsChain fun c d => c = '\\' → d ∉ parentheses))

theorem hasBareParenthesis_backslash (escaped : Bool) (t : List Char) :
    hasBareParenthesis escaped ('\\' :: t) = hasBareParenthesis (!escaped) t :=
  if_pos rfl

theorem hasBareParenthesis_escaped {c : Char} (h : c ≠ '\\') (t : List Char) :
    hasBareParenthesis true (c :: t) = hasBareParenthesis false t := by
  simp [hasBareParenthesis, h]

theorem hasBareParenthesis_of_ne {c : Char} (hc : c ≠ '\\') (h : c ∉ parentheses) (escaped : Bool)
    (t : List Char) : hasBareParenthesis escaped (c :: t) = hasBareParenthesis false t := by
  have hopen : c ≠ '(' := by
    rintro rfl
    exact h (by decide)
  have hclose : c ≠ ')' := by
    rintro rfl
    exact h (by decide)
  simp [hasBareParenthesis, hc, hopen, hclose]

/-- A word is passed over, whatever comes behind it. A backslash that is still open counts for no
parenthesis of it. -/
theorem hasBareParenthesis_escape_append {t : List Char} (h : IsUnescaped t) (escaped : Bool)
    (hhead : escaped → ∀ c ∈ t.head?, c ∉ parentheses) (rest : List Char) :
    ∃ e, hasBareParenthesis escaped (escape t ++ rest) = hasBareParenthesis e rest := by
  induction t generalizing escaped with
  | nil => exact ⟨escaped, rfl⟩
  | cons c t ih =>
    obtain ⟨hnext, htail⟩ := List.isChain_cons.1 h
    by_cases hc : c ∈ parentheses
    · obtain rfl : escaped = false := by
        cases escaped with
        | false => rfl
        | true => exact absurd hc (hhead rfl c rfl)
      have hne : c ≠ '\\' := by
        rintro rfl
        exact absurd hc (by decide)
      rw [escape, escapeEach_cons_of_mem hc, List.cons_append, List.cons_append,
        hasBareParenthesis_backslash, Bool.not_false, hasBareParenthesis_escaped hne]
      exact ih htail false nofun
    · rw [escape, escapeEach_cons_of_not_mem hc, List.cons_append]
      by_cases hne : c = '\\'
      · -- A backslash of the word itself may be left open, but not right before a parenthesis.
        subst hne
        rw [hasBareParenthesis_backslash]
        exact ih htail _ fun _ d hd => hnext d hd rfl
      · rw [hasBareParenthesis_of_ne hne hc]
        exact ih htail false nofun

end Wordbook.Multi
