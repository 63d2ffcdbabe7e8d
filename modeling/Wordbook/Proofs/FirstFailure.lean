import Wordbook.Proofs.Except

/-!
# First failures

Elements are gone through in their order, and the first one that fails ends it.
What it fails with is all that is told of the others.

* `FirstFails`: how some elements fail, as a relation;
* `mapM_eq_error_iff`, `foldlM_eq_error_iff`: going through them comes to that;
* `firstFails_iff_of_pairwise`: of ascending elements, the smallest one counts.
-/

namespace Wordbook

variable {α β ε : Type}

theorem exists_eq_ok_iff {x : Except ε α} : (∃ a, x = .ok a) ↔ ¬∃ e, x = .error e := by
  cases x <;> simp

theorem bind_eq_error_iff {x : Except ε α} {f : α → Except ε β} {e : ε} :
    x >>= f = .error e ↔ x = .error e ∨ ∃ a, x = .ok a ∧ f a = .error e := by
  cases x <;> simp [bind, Except.bind]

theorem map_eq_error_iff {x : Except ε α} {f : α → β} {e : ε} :
    x.map f = .error e ↔ x = .error e := by
  cases x <;> simp [Except.map]

/-- Of some elements that may fail, the first one that does so fails like this. -/
def FirstFails (Fails : α → ε → Prop) (as : List α) (e : ε) : Prop :=
  ∃ before a after, as = before ++ a :: after ∧ (∀ b ∈ before, ∀ e', ¬Fails b e') ∧ Fails a e

variable {Fails : α → ε → Prop} {as : List α} {e : ε}

theorem not_firstFails_nil : ¬FirstFails Fails [] e := by
  rintro ⟨before, a, after, h, -⟩
  simp at h

theorem firstFails_cons_iff {a : α} : FirstFails Fails (a :: as) e ↔
    Fails a e ∨ (∀ e', ¬Fails a e') ∧ FirstFails Fails as e := by
  constructor
  · rintro ⟨before, b, after, h, hbefore, hb⟩
    cases before with
    | nil =>
      obtain ⟨rfl, rfl⟩ := List.cons_eq_cons.1 h
      exact .inl hb
    | cons c before =>
      obtain ⟨rfl, rfl⟩ := List.cons_eq_cons.1 h
      obtain ⟨hc, hbefore⟩ := List.forall_mem_cons.1 hbefore
      exact .inr ⟨hc, before, b, after, rfl, hbefore, hb⟩
  · rintro (ha | ⟨ha, before, b, after, rfl, hbefore, hb⟩)
    · exact ⟨[], a, as, rfl, nofun, ha⟩
    · exact ⟨a :: before, b, after, rfl, List.forall_mem_cons.2 ⟨ha, hbefore⟩, hb⟩

/-- If any element fails, there is a first one. -/
theorem exists_firstFails_iff :
    (∃ e, FirstFails Fails as e) ↔ ∃ a ∈ as, ∃ e, Fails a e := by
  induction as with
  | nil => simp [not_firstFails_nil]
  | cons a as ih =>
    simp only [firstFails_cons_iff, exists_or, exists_and_left, ih, List.mem_cons,
      exists_eq_or_imp]
    by_cases ha : ∃ e, Fails a e
    · exact iff_of_true (.inl ha) (.inl ha)
    · simp [not_exists.1 ha]

theorem firstFails_congr {Fails' : α → ε → Prop} (h : ∀ a ∈ as, ∀ e, Fails a e ↔ Fails' a e) :
    FirstFails Fails as e ↔ FirstFails Fails' as e := by
  induction as with
  | nil => simp [not_firstFails_nil]
  | cons a as ih =>
    obtain ⟨ha, has⟩ := List.forall_mem_cons.1 h
    simp only [firstFails_cons_iff, ha, ih has]

/-- In an ascending list, the first element that fails is the smallest one. -/
theorem firstFails_iff_of_pairwise [LT α] (hirrefl : ∀ a : α, ¬a < a)
    (htrans : ∀ a b c : α, a < b → b < c → a < c) (has : as.Pairwise (· < ·)) :
    FirstFails Fails as e ↔
      ∃ a ∈ as, Fails a e ∧ ∀ b ∈ as, (∃ e', Fails b e') → ¬b < a := by
  constructor
  · rintro ⟨before, a, after, rfl, hbefore, ha⟩
    refine ⟨a, by simp, ha, fun b hb ⟨e', hfails⟩ hlt => ?_⟩
    rcases List.mem_append.1 hb with hb | hb
    · exact hbefore b hb e' hfails
    · rcases List.mem_cons.1 hb with rfl | hb
      · exact hirrefl b hlt
      · have hgt := (List.pairwise_cons.1 (List.pairwise_append.1 has).2.1).1 b hb
        exact hirrefl a (htrans a b a hgt hlt)
  · rintro ⟨a, ha, hfails, hleast⟩
    obtain ⟨before, after, rfl⟩ := List.append_of_mem ha
    refine ⟨before, a, after, rfl, fun b hb e' hb' => ?_, hfails⟩
    exact hleast b (List.mem_append_left _ hb) ⟨e', hb'⟩
      ((List.pairwise_append.1 has).2.2 b hb a List.mem_cons_self)

theorem mapM_eq_error_iff {f : α → Except ε β} :
    as.mapM f = .error e ↔ FirstFails (fun a e => f a = .error e) as e := by
  induction as with
  | nil => simp [not_firstFails_nil, pure, Except.pure]
  | cons a as ih =>
    rw [List.mapM_cons, bind_eq_error_iff, firstFails_cons_iff, ← ih]
    refine or_congr_right ?_
    cases f a <;> simp [bind_eq_error_iff, pure, Except.pure]

/-- Steps that fail whatever has come of the steps before them. -/
theorem foldlM_eq_error_iff {σ : Type} {f : σ → α → Except ε σ}
    (hf : ∀ s a e, f s a = .error e ↔ Fails a e) {s : σ} :
    as.foldlM f s = .error e ↔ FirstFails Fails as e := by
  induction as generalizing s with
  | nil => simp [not_firstFails_nil, pure, Except.pure]
  | cons a as ih =>
    rw [List.foldlM_cons, bind_eq_error_iff, firstFails_cons_iff, hf]
    refine or_congr_right ?_
    have hok : (∃ s', f s a = .ok s') ↔ ∀ e', ¬Fails a e' := by
      rw [exists_eq_ok_iff, not_exists]
      exact forall_congr' fun e' => not_congr (hf s a e')
    simp only [ih, exists_and_right, hok]

end Wordbook
