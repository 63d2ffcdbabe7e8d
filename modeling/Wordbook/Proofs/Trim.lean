import Mathlib.Data.List.DropRight
import Wordbook.Text.Blank

/-!
# Trimmed texts

Trimming takes nothing but blanks away: a trimmed text is blank if and only if
the text itself is (`isBlankText_trim`), and then it is empty (`trim_eq_nil_iff`).
A text is trimmed if neither end of it is blank (`trim_eq_self_iff`), and once it
is trimmed (`trim_trim`).
-/

namespace Wordbook.Text

theorem isBlankText_trimStart (t : List Char) : isBlankText (trimStart t) = isBlankText t := by
  induction t with
  | nil => rfl
  | cons c t ih =>
    rw [trimStart, List.dropWhile_cons]
    split
    · rename_i h
      rw [← trimStart, ih, isBlankText, isBlankText, List.all_cons, h, Bool.true_and]
    · rfl

theorem trimEnd_eq_rdropWhile (t : List Char) : trimEnd t = t.rdropWhile isBlank := rfl

theorem isBlankText_trimEnd (t : List Char) : isBlankText (trimEnd t) = isBlankText t := by
  induction t using List.reverseRecOn with
  | nil => rfl
  | append_singleton t c ih =>
    rw [trimEnd_eq_rdropWhile, List.rdropWhile_concat]
    split
    · rename_i h
      rw [← trimEnd_eq_rdropWhile, ih]
      simp [isBlankText, h]
    · rfl

theorem isBlankText_trim (t : List Char) : isBlankText (trim t) = isBlankText t := by
  rw [trim, isBlankText_trimEnd, isBlankText_trimStart]

theorem trimStart_eq_nil_iff {t : List Char} : trimStart t = [] ↔ isBlankText t := by
  rw [trimStart, List.dropWhile_eq_nil_iff, isBlankText, List.all_eq_true]

theorem trimEnd_eq_nil_iff {t : List Char} : trimEnd t = [] ↔ isBlankText t := by
  rw [trimEnd_eq_rdropWhile, List.rdropWhile_eq_nil_iff, isBlankText, List.all_eq_true]

theorem trim_eq_nil_iff {t : List Char} : trim t = [] ↔ isBlankText t := by
  rw [trim, trimEnd_eq_nil_iff, isBlankText_trimStart]

theorem trim_ne_nil_iff {t : List Char} : trim t ≠ [] ↔ isBlankText t = false := by
  rw [Ne, trim_eq_nil_iff, Bool.not_eq_true]

theorem ne_nil_of_filled {t : List Char} (h : isBlankText t = false) : t ≠ [] := by
  rintro rfl
  nomatch h

theorem trimStart_blank_append {gap : List Char} (h : isBlankText gap) (t : List Char) :
    trimStart (gap ++ t) = trimStart t :=
  List.dropWhile_append_of_pos (List.all_eq_true.1 h)

theorem trimEnd_append_blank {gap : List Char} (h : isBlankText gap) (t : List Char) :
    trimEnd (t ++ gap) = trimEnd t := by
  have hreverse : ∀ c ∈ gap.reverse, isBlank c := fun c hc =>
    List.all_eq_true.1 h c (List.mem_reverse.1 hc)
  rw [trimEnd, trimEnd, List.reverse_append, List.dropWhile_append_of_pos hreverse]

theorem trim_blank_append {gap : List Char} (h : isBlankText gap) (t : List Char) :
    trim (gap ++ t) = trim t := by
  rw [trim, trim, trimStart_blank_append h]

theorem trim_append_blank {gap : List Char} (h : isBlankText gap) (t : List Char) :
    trim (t ++ gap) = trim t := by
  have hgap : trimStart gap = [] := trimStart_eq_nil_iff.2 h
  rw [trim, trim, trimStart, List.dropWhile_append, ← trimStart, ← trimStart, hgap]
  split
  · rename_i ht
    rw [List.isEmpty_iff.1 ht]
  · exact trimEnd_append_blank h _

/-- What trimming takes away. -/
theorem exists_blanks_around (t : List Char) :
    ∃ before after, isBlankText before ∧ isBlankText after ∧ t = before ++ trim t ++ after := by
  refine ⟨t.takeWhile isBlank, (trimStart t).rtakeWhile isBlank,
    List.all_eq_true.2 fun _ => List.mem_takeWhile_imp,
    List.all_eq_true.2 fun _ => List.mem_rtakeWhile_imp, ?_⟩
  have hend : trim t ++ (trimStart t).rtakeWhile isBlank = trimStart t := by
    rw [trim, trimEnd, List.rtakeWhile, ← List.reverse_append, List.takeWhile_append_dropWhile,
      List.reverse_reverse]
  rw [List.append_assoc, hend, trimStart, List.takeWhile_append_dropWhile]

theorem trim_trim (t : List Char) : trim (trim t) = trim t := by
  obtain ⟨before, after, hbefore, hafter, ht⟩ := exists_blanks_around t
  have htrim : trim (before ++ trim t ++ after) = trim (trim t) := by
    rw [List.append_assoc, trim_blank_append hbefore, trim_append_blank hafter]
  rw [← htrim, ← ht]

theorem trimStart_eq_self_iff {t : List Char} :
    trimStart t = t ↔ ∀ c ∈ t.head?, isBlank c = false := by
  rw [trimStart, List.dropWhile_eq_self_iff]
  cases t <;> simp

theorem trimEnd_eq_self_iff {t : List Char} :
    trimEnd t = t ↔ ∀ c ∈ t.getLast?, isBlank c = false := by
  rw [trimEnd_eq_rdropWhile, List.rdropWhile_eq_self_iff]
  cases t using List.reverseRecOn <;> simp

theorem trim_eq_self_iff {t : List Char} :
    trim t = t ↔
      (∀ c ∈ t.head?, isBlank c = false) ∧ ∀ c ∈ t.getLast?, isBlank c = false := by
  rw [← trimStart_eq_self_iff, ← trimEnd_eq_self_iff]
  constructor
  · intro h
    have hsuffix : trimStart t <:+ t := List.dropWhile_suffix _
    have hlength : (trim t).length ≤ (trimStart t).length := (List.rdropWhile_prefix ..).length_le
    have hstart : trimStart t = t := hsuffix.eq_of_length_le (by rwa [h] at hlength)
    exact ⟨hstart, by rwa [trim, hstart] at h⟩
  · rintro ⟨hstart, hend⟩
    rw [trim, hstart, hend]

/-- A text between two trimmed ones gives a trimmed text, whatever blanks it begins or ends with. -/
theorem trim_append_append {s t : List Char} (hs : trim s = s) (ht : trim t = t) (hsne : s ≠ [])
    (htne : t ≠ []) (gap : List Char) : trim (s ++ gap ++ t) = s ++ gap ++ t := by
  rw [trim_eq_self_iff] at hs ht ⊢
  obtain ⟨c, s, rfl⟩ := List.exists_cons_of_ne_nil hsne
  refine ⟨hs.1, ?_⟩
  rw [List.getLast?_append, List.getLast?_eq_some_getLast htne, Option.some_or,
    ← List.getLast?_eq_some_getLast htne]
  exact ht.2

theorem trim_append_space {s t : List Char} (hs : trim s = s) (ht : trim t = t) (hsne : s ≠ [])
    (htne : t ≠ []) : trim (s ++ ' ' :: t) = s ++ ' ' :: t := by
  have h := trim_append_append hs ht hsne htne [' ']
  rwa [List.append_assoc] at h

theorem getLast?_append_space_ne {t : List Char} {c : Char} (hne : t ≠ []) (h : c ∉ t)
    (s : List Char) : (s ++ ' ' :: t).getLast? ≠ some c := by
  obtain ⟨d, t, rfl⟩ := List.exists_cons_of_ne_nil hne
  rw [List.getLast?_append_cons, List.getLast?_cons_cons]
  exact fun hlast => h (List.mem_of_getLast? hlast)

end Wordbook.Text
