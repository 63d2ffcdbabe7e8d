import Wordbook.Proofs.Trim
import Wordbook.Text.Split

/-!
# Texts that are joined and cut again

Texts without a separator are got back from between the separators that join
them, whatever blanks are written around those.

* `exists_pieces_append`: the pieces of two texts, one behind the other;
* `map_trim_pieces_intercalate`: all texts of a list;
* `cutAtFirst_append_cons`, `cutAtLast_append_cons`: the texts at both sides of a
  character that one of them does not have.
-/

namespace Wordbook.Text

theorem pieces_cons_self (sep : Char) (t : List Char) :
    pieces sep (sep :: t) = [] :: pieces sep t :=
  if_pos rfl

theorem pieces_cons_of_ne {sep c : Char} (h : c ≠ sep) {t p : List Char} {ps : List (List Char)}
    (ht : pieces sep t = p :: ps) : pieces sep (c :: t) = (c :: p) :: ps := by
  rw [pieces_cons, ht]
  exact if_neg h

theorem pieces_of_not_mem {sep : Char} {t : List Char} (h : sep ∉ t) : pieces sep t = [t] := by
  induction t with
  | nil => rfl
  | cons c t ih =>
    rw [List.mem_cons, not_or] at h
    exact pieces_cons_of_ne (Ne.symm h.1) (ih h.2)

theorem pieces_append_cons {sep : Char} {s : List Char} (h : sep ∉ s) (t : List Char) :
    pieces sep (s ++ sep :: t) = s :: pieces sep t := by
  induction s with
  | nil => exact pieces_cons_self sep t
  | cons c s ih =>
    rw [List.mem_cons, not_or] at h
    exact pieces_cons_of_ne (Ne.symm h.1) (ih h.2)

/-- Where two texts meet, the last piece of the one and the first piece of the other are one. -/
theorem exists_pieces_append (sep : Char) (s : List Char) {t q : List Char}
    {qs : List (List Char)} (ht : pieces sep t = q :: qs) :
    ∃ ps p, pieces sep s = ps ++ [p] ∧ pieces sep (s ++ t) = ps ++ (p ++ q) :: qs := by
  induction s with
  | nil => exact ⟨[], [], rfl, ht⟩
  | cons c s ih =>
    obtain ⟨ps, p, hs, hst⟩ := ih
    by_cases hc : c = sep
    · refine ⟨[] :: ps, p, ?_, ?_⟩
      · rw [hc, pieces_cons_self, hs, List.cons_append]
      · rw [hc, List.cons_append, pieces_cons_self, hst, List.cons_append]
    · cases ps with
      | nil => exact ⟨[], c :: p, pieces_cons_of_ne hc hs, pieces_cons_of_ne hc hst⟩
      | cons r ps => exact ⟨(c :: r) :: ps, p, pieces_cons_of_ne hc hs, pieces_cons_of_ne hc hst⟩

theorem isBlankText_of_mem_pieces (sep : Char) {gap : List Char} (h : isBlankText gap) :
    ∀ p ∈ pieces sep gap, isBlankText p := by
  induction gap with
  | nil => simpa using h
  | cons c gap ih =>
    rw [isBlankText, List.all_cons, Bool.and_eq_true] at h
    obtain ⟨p, ps, hgap⟩ := List.exists_cons_of_ne_nil (pieces_ne_nil sep gap)
    have hps := ih h.2
    by_cases hc : c = sep
    · rw [hc, pieces_cons_self]
      exact List.forall_mem_cons.2 ⟨rfl, hps⟩
    · rw [hgap, List.forall_mem_cons] at hps
      rw [pieces_cons_of_ne hc hgap, List.forall_mem_cons, isBlankText, List.all_cons, h.1]
      exact hps

theorem not_mem_of_blank {sep : Char} (hsep : isBlank sep = false) {gap : List Char}
    (h : isBlankText gap) : sep ∉ gap := fun hmem => by
  rw [List.all_eq_true.1 h sep hmem] at hsep
  nomatch hsep

/-- Blanks before a text belong to its first piece, where trimming takes them away. -/
theorem map_trim_pieces_blank_append {sep : Char} (hsep : isBlank sep = false) {gap : List Char}
    (h : isBlankText gap) (t : List Char) :
    (pieces sep (gap ++ t)).map trim = (pieces sep t).map trim := by
  induction gap with
  | nil => rfl
  | cons c gap ih =>
    rw [isBlankText, List.all_cons, Bool.and_eq_true] at h
    have hc : c ≠ sep := by
      rintro rfl
      exact Bool.false_ne_true (hsep.symm.trans h.1)
    obtain ⟨p, ps, hps⟩ := List.exists_cons_of_ne_nil (pieces_ne_nil sep (gap ++ t))
    have hblank : isBlankText [c] := by simp [isBlankText, h.1]
    have hp : trim (c :: p) = trim p := trim_blank_append hblank p
    rw [← ih h.2, List.cons_append, pieces_cons_of_ne hc hps, hps, List.map_cons, List.map_cons, hp]

theorem pieces_intercalate {sep : Char} {ts : List (List Char)} (hne : ts ≠ [])
    (h : ∀ t ∈ ts, sep ∉ t) : pieces sep ([sep].intercalate ts) = ts := by
  induction ts with
  | nil => exact absurd rfl hne
  | cons t ts ih =>
    obtain ⟨ht, hts⟩ := List.forall_mem_cons.1 h
    cases ts with
    | nil => rw [List.intercalate_singleton, pieces_of_not_mem ht]
    | cons u ts =>
      rw [List.intercalate_cons_cons, List.append_assoc, List.singleton_append,
        pieces_append_cons ht, ih (List.cons_ne_nil _ _) hts]

section

variable {gap : List Char} {ts : List (List Char)}

theorem intercalate_ne_nil (hne : ts ≠ []) (h : ∀ t ∈ ts, t ≠ []) : gap.intercalate ts ≠ [] := by
  match ts with
  | [] => exact absurd rfl hne
  | [t] => simpa using h
  | t :: u :: ts =>
    rw [List.intercalate_cons_cons, List.append_assoc]
    exact List.append_ne_nil_of_left_ne_nil (h t List.mem_cons_self) _

theorem not_mem_intercalate {c : Char} (hgap : c ∉ gap) (h : ∀ t ∈ ts, c ∉ t) :
    c ∉ gap.intercalate ts := by
  induction ts with
  | nil => simp
  | cons t ts ih =>
    obtain ⟨ht, hts⟩ := List.forall_mem_cons.1 h
    cases ts with
    | nil => simpa using ht
    | cons u ts =>
      rw [List.intercalate_cons_cons, List.mem_append, List.mem_append]
      rintro ((hmem | hmem) | hmem)
      · exact ht hmem
      · exact hgap hmem
      · exact ih hts hmem

theorem trim_intercalate (h : ∀ t ∈ ts, trim t = t ∧ t ≠ []) :
    trim (gap.intercalate ts) = gap.intercalate ts := by
  induction ts with
  | nil => rfl
  | cons t ts ih =>
    obtain ⟨ht, hts⟩ := List.forall_mem_cons.1 h
    cases ts with
    | nil => simpa using ht.1
    | cons u ts =>
      rw [List.intercalate_cons_cons]
      refine trim_append_append ht.1 (ih hts) ht.2 ?_ gap
      exact intercalate_ne_nil (List.cons_ne_nil _ _) fun t ht => (hts t ht).2

theorem intercalate_concat_append (gap : List Char) (ts : List (List Char)) (t s : List Char) :
    gap.intercalate (ts ++ [t]) ++ s = gap.intercalate (ts ++ [t ++ s]) := by
  induction ts with
  | nil => simp
  | cons u ts ih =>
    rw [List.cons_append, List.cons_append, List.intercalate_cons_of_ne_nil (by simp),
      List.intercalate_cons_of_ne_nil (by simp), List.append_assoc, ih]

/-- Joined texts end as the last of them does. -/
theorem exists_getLast?_intercalate (hne : ts ≠ []) (h : ∀ t ∈ ts, t ≠ []) :
    ∃ t ∈ ts, (gap.intercalate ts).getLast? = t.getLast? := by
  induction ts with
  | nil => exact absurd rfl hne
  | cons t ts ih =>
    obtain ⟨ht, hts⟩ := List.forall_mem_cons.1 h
    cases ts with
    | nil => exact ⟨t, List.mem_cons_self, by rw [List.intercalate_singleton]⟩
    | cons u ts =>
      obtain ⟨v, hv, hlast⟩ := ih (List.cons_ne_nil _ _) hts
      refine ⟨v, List.mem_cons_of_mem _ hv, ?_⟩
      rw [List.intercalate_cons_cons, List.getLast?_append, hlast,
        List.getLast?_eq_some_getLast (hts v hv), Option.some_or]

theorem map_trim_pieces_intercalate {sep : Char} (before after : List Char)
    (hsep : isBlank sep = false) (hbefore : isBlankText before) (hafter : isBlankText after)
    (hne : ts ≠ []) (h : ∀ t ∈ ts, trim t = t ∧ sep ∉ t) :
    (pieces sep ((before ++ sep :: after).intercalate ts)).map trim = ts := by
  induction ts with
  | nil => exact absurd rfl hne
  | cons t ts ih =>
    obtain ⟨⟨htrim, hmem⟩, hts⟩ := List.forall_mem_cons.1 h
    cases ts with
    | nil => rw [List.intercalate_singleton, pieces_of_not_mem hmem, List.map_singleton, htrim]
    | cons u ts =>
      have hfirst : sep ∉ t ++ before := by
        rw [List.mem_append, not_or]
        exact ⟨hmem, not_mem_of_blank hsep hbefore⟩
      have hcut : (before ++ sep :: after).intercalate (t :: u :: ts) =
          (t ++ before) ++ sep :: (after ++ (before ++ sep :: after).intercalate (u :: ts)) := by
        rw [List.intercalate_cons_cons]
        simp only [List.append_assoc, List.cons_append]
      rw [hcut, pieces_append_cons hfirst, List.map_cons, trim_append_blank hbefore, htrim,
        map_trim_pieces_blank_append hsep hafter, ih (List.cons_ne_nil _ _) hts]

end

theorem cutAtFirst_append_cons {p : Char → Bool} {s : List Char} {c : Char}
    (hs : ∀ d ∈ s, p d = false) (hc : p c = true) (t : List Char) :
    cutAtFirst p (s ++ c :: t) = some (s, c, t) := by
  induction s with
  | nil => rw [List.nil_append, cutAtFirst, if_pos hc]
  | cons d s ih =>
    obtain ⟨hd, hs⟩ := List.forall_mem_cons.1 hs
    rw [List.cons_append, cutAtFirst, hd, ih hs]
    rfl

theorem cutAtLast_append_cons {p : Char → Bool} {t : List Char} {c : Char}
    (ht : ∀ d ∈ t, p d = false) (hc : p c = true) (s : List Char) :
    cutAtLast p (s ++ c :: t) = some (s, c, t) := by
  have hreverse : (s ++ c :: t).reverse = t.reverse ++ c :: s.reverse := by simp
  rw [cutAtLast, hreverse, cutAtFirst_append_cons (by simpa using ht) hc]
  simp

theorem cutAtFirst_eq_none {p : Char → Bool} {t : List Char} (h : cutAtFirst p t = none) :
    ∀ c ∈ t, p c = false := by
  induction t with
  | nil => simp
  | cons c t ih =>
    rw [cutAtFirst] at h
    split at h
    · nomatch h
    · rename_i hc
      exact List.forall_mem_cons.2 ⟨Bool.eq_false_iff.2 hc, ih (Option.map_eq_none_iff.1 h)⟩

theorem cutAtFirst_eq_some {p : Char → Bool} {t before after : List Char} {c : Char}
    (h : cutAtFirst p t = some (before, c, after)) : t = before ++ c :: after ∧ p c = true := by
  induction t generalizing before with
  | nil => nomatch h
  | cons d t ih =>
    rw [cutAtFirst] at h
    split at h
    · rename_i hd
      obtain ⟨rfl, rfl, rfl⟩ : [] = before ∧ d = c ∧ t = after := by simpa using h
      exact ⟨rfl, hd⟩
    · obtain ⟨⟨before', c', after'⟩, hcut, heq⟩ := Option.map_eq_some_iff.1 h
      obtain ⟨rfl, rfl, rfl⟩ : d :: before' = before ∧ c' = c ∧ after' = after := by simpa using heq
      obtain ⟨rfl, hc⟩ := ih hcut
      exact ⟨rfl, hc⟩

end Wordbook.Text
