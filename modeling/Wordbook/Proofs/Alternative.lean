import Mathlib.Data.List.Induction
import Wordbook.Cell.Parts
import Wordbook.Proofs.Except
import Wordbook.Proofs.Trim

/-!
# Alternatives of parts

A part of a cell has one piece for all variants or a piece for each of them.

* `Cell.alternative_eq_ok_iff`: which piece is the alternative at an index;
* `Cell.aligned_iff`: some parts fit if and only if there are alternatives of all
  of them at all indices.
-/

namespace Wordbook.Cell

open Text (isBlankText pieces trim)

/-- The member at an index. A single member is at all of them. -/
def shared? {α : Type} (as : List α) (k : Nat) : Option α :=
  match as with
  | [a] => some a
  | as => as[k]?

section

variable {α : Type} {as : List α} {k : Nat} {a : α}

theorem shared?_eq_getElem? (h : as.length ≠ 1) : shared? as k = as[k]? := by
  unfold shared?
  split
  · exact absurd rfl h
  · rfl

theorem shared?_self (hk : k < as.length) : shared? as k = as[k]? := by
  unfold shared?
  split
  · obtain rfl : k = 0 := Nat.lt_one_iff.1 hk
    rfl
  · rfl

theorem exists_shared? (hpos : as ≠ []) (h : as.length = 1 ∨ k < as.length) :
    ∃ a, shared? as k = some a := by
  by_cases hk : k < as.length
  · exact ⟨as[k], by rw [shared?_self hk, List.getElem?_eq_getElem hk]⟩
  · obtain ⟨a, rfl⟩ := List.length_eq_one_iff.1 (h.resolve_right hk)
    exact ⟨a, rfl⟩

theorem mem_of_shared? (h : shared? as k = some a) : a ∈ as := by
  unfold shared? at h
  split at h
  · exact List.mem_singleton.2 (Option.some.inj h).symm
  · exact List.mem_of_getElem? h

theorem shared?_map {β : Type} (f : α → β) (as : List α) (k : Nat) :
    shared? (as.map f) k = (shared? as k).map f := by
  by_cases hone : as.length = 1
  · obtain ⟨a, rfl⟩ := List.length_eq_one_iff.1 hone
    rfl
  · have hmap : (as.map f).length ≠ 1 := by rwa [List.length_map]
    rw [shared?_eq_getElem? hone, shared?_eq_getElem? hmap, List.getElem?_map]

end

theorem alternative_eq_ok_iff {part text : List Char} {k : Nat} :
    alternative part k = .ok text ↔ ∃ piece, shared? (pieces '~' part) k = some piece ∧
      isBlankText piece = false ∧ trim piece = text := by
  have htext (piece : List Char) : (if (trim piece).isEmpty then
      Except.error (CellError.emptyAlternative (String.ofList part)) else .ok (trim piece)) =
        .ok text ↔ isBlankText piece = false ∧ trim piece = text := by
    simp only [List.isEmpty_iff, Text.trim_eq_nil_iff]
    cases isBlankText piece <;> simp
  refine bind_eq_ok_iff.trans (exists_congr fun piece => and_congr ?_ (htext piece))
  unfold shared?
  generalize pieces '~' part = ps
  split
  · simp
  · cases h : ps[k]? <;> simp [h]

theorem isBlankText_alternative {part t : List Char} {k : Nat} (h : alternative part k = .ok t) :
    isBlankText t = false := by
  obtain ⟨piece, -, hfilled, rfl⟩ := alternative_eq_ok_iff.1 h
  rwa [Text.isBlankText_trim]

/-- Every alternative of a part is one at an index of its own. -/
theorem exists_alternative_lt {part t : List Char} {k : Nat} (h : alternative part k = .ok t) :
    ∃ j < alternativeCount part, alternative part j = .ok t := by
  obtain ⟨piece, hpiece, htext⟩ := alternative_eq_ok_iff.1 h
  obtain ⟨j, hj, hpiece⟩ := List.getElem_of_mem (mem_of_shared? hpiece)
  refine ⟨j, hj, alternative_eq_ok_iff.2 ⟨piece, ?_, htext⟩⟩
  rw [shared?_self hj, List.getElem?_eq_getElem hj, hpiece]

theorem alternativeCount_le {part : List Char} {parts : List (List Char)} (h : part ∈ parts) :
    alternativeCount part ≤ maxAlternatives parts := by
  induction parts using List.reverseRecOn with
  | nil => exact absurd h List.not_mem_nil
  | append_singleton parts last ih =>
    rw [maxAlternatives, List.foldl_append, ← maxAlternatives]
    rcases List.mem_append.1 h with h | h
    · exact Nat.le_trans (ih h) (Nat.le_max_left ..)
    · rw [List.mem_singleton.1 h]
      exact Nat.le_max_right ..

/-- Parts that fit: every one of them has a single piece or as many pieces as there are variants. -/
structure Aligned (parts : List (List Char)) (n : Nat) : Prop where
  exists_count : ∃ part ∈ parts, alternativeCount part = n
  count_le : ∀ part ∈ parts, alternativeCount part ≤ n
  count : ∀ part ∈ parts, alternativeCount part = 1 ∨ alternativeCount part = n
  filled : ∀ part ∈ parts, ∀ piece ∈ pieces '~' part, isBlankText piece = false

theorem exists_count_eq_max {parts : List (List Char)} (hne : parts ≠ []) :
    ∃ part ∈ parts, alternativeCount part = maxAlternatives parts := by
  induction parts using List.reverseRecOn with
  | nil => exact absurd rfl hne
  | append_singleton parts part ih =>
    have hmax : maxAlternatives (parts ++ [part]) =
        max (maxAlternatives parts) (alternativeCount part) := by
      simp [maxAlternatives]
    rw [hmax]
    by_cases hlt : alternativeCount part < maxAlternatives parts
    · have hparts : parts ≠ [] := by
        rintro rfl
        exact Nat.not_lt_zero _ hlt
      obtain ⟨p, hp, hcount⟩ := ih hparts
      exact ⟨p, List.mem_append_left _ hp, by omega⟩
    · exact ⟨part, by simp, by omega⟩

theorem aligned_iff {parts : List (List Char)} (hne : parts ≠ []) :
    Aligned parts (maxAlternatives parts) ↔
      ∀ k < maxAlternatives parts, ∀ part ∈ parts, ∃ text, alternative part k = .ok text := by
  constructor
  · intro h k hk part hpart
    have hlt : (pieces '~' part).length = 1 ∨ k < (pieces '~' part).length := by
      rcases h.count part hpart with hone | hmax
      · exact .inl hone
      · exact .inr (Nat.lt_of_lt_of_eq hk hmax.symm)
    obtain ⟨piece, hpiece⟩ := exists_shared? (Text.pieces_ne_nil _ _) hlt
    have hfilled := h.filled part hpart piece (mem_of_shared? hpiece)
    exact ⟨_, alternative_eq_ok_iff.2 ⟨piece, hpiece, hfilled, rfl⟩⟩
  · intro h
    refine ⟨exists_count_eq_max hne, fun part => alternativeCount_le, fun part hpart => ?_,
      fun part hpart piece hpiece => ?_⟩
    · by_cases hone : alternativeCount part = 1
      · exact .inl hone
      -- The last variant has a piece of its own, so none is missing.
      · have hle := alternativeCount_le hpart
        have hpos : 0 < alternativeCount part := List.length_pos_iff.2 (Text.pieces_ne_nil _ _)
        obtain ⟨text, htext⟩ := h (maxAlternatives parts - 1) (by omega) part hpart
        obtain ⟨piece, hpiece, -⟩ := alternative_eq_ok_iff.1 htext
        rw [shared?_eq_getElem? hone] at hpiece
        have hlt : maxAlternatives parts - 1 < alternativeCount part :=
          (List.getElem?_eq_some_iff.1 hpiece).1
        exact .inr (by omega)
    · obtain ⟨k, hk, rfl⟩ := List.mem_iff_getElem.1 hpiece
      obtain ⟨text, htext⟩ := h k (Nat.lt_of_lt_of_le hk (alternativeCount_le hpart)) part hpart
      obtain ⟨piece, hpiece', hfilled, -⟩ := alternative_eq_ok_iff.1 htext
      rw [shared?_self hk, List.getElem?_eq_getElem hk] at hpiece'
      rwa [Option.some.inj hpiece']

end Wordbook.Cell
