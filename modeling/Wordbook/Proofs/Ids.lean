import Wordbook.Creation

/-!
# Temporary ids

The ids of a sequence, in the order in which they are drawn.

* `IdSequence.Fits.members_descend`: unless they wrap, the ids of a sequence
  descend from the first one without a gap.
-/

namespace Wordbook

/-- Some ids that count down from the first one. -/
def countdown (first : Int64) (count : Nat) : List Int64 :=
  (List.range count).map fun k => first - Int64.ofNat k

@[simp] theorem length_countdown (first : Int64) (count : Nat) :
    (countdown first count).length = count := by
  simp [countdown]

theorem countdown_add (first : Int64) (m n : Nat) :
    countdown first (m + n) = countdown first m ++ countdown (first - Int64.ofNat m) n := by
  simp only [countdown, List.range_add, List.map_append, List.map_map]
  refine congrArg (_ ++ ·) (List.map_congr_left fun k _ => ?_)
  rw [Function.comp_apply, Int64.ofNat_add, Int64.sub_sub]

theorem moved_sub (id d k : Int64) : id + d - k = id - k + d := by
  rw [Int64.sub_eq_add_neg, Int64.sub_eq_add_neg, Int64.add_assoc, Int64.add_comm d,
    Int64.add_assoc]

namespace IdSequence

/-- The ids that have been drawn, in their order. -/
def members (ids : IdSequence) : List Int64 := countdown ids.first ids.drawn

@[simp] theorem first_draw (ids : IdSequence) (count : Nat) :
    (ids.draw count).first = ids.first := rfl

@[simp] theorem drawn_draw (ids : IdSequence) (count : Nat) :
    (ids.draw count).drawn = ids.drawn + count := rfl

@[simp] theorem draw_zero (ids : IdSequence) : ids.draw 0 = ids := rfl

theorem draw_draw (ids : IdSequence) (m n : Nat) : (ids.draw m).draw n = ids.draw (m + n) := by
  simp only [draw, Nat.add_assoc]

theorem next_draw (ids : IdSequence) (count : Nat) :
    (ids.draw count).next = ids.next - Int64.ofNat count := by
  rw [next, next, first_draw, drawn_draw, Int64.ofNat_add, Int64.sub_sub]

@[simp] theorem next_start (first : Int64) : (⟨first, 0⟩ : IdSequence).next = first := by
  simp [next]

/-- No id has been drawn below the least one. -/
def Fits (ids : IdSequence) : Prop :=
  (ids.drawn : Int) ≤ ids.first.toInt - Int64.minValue.toInt + 1

instance (ids : IdSequence) : Decidable ids.Fits := inferInstanceAs (Decidable (_ ≤ _))

theorem toInt_sub_ofNat {first : Int64} {k : Nat}
    (h : (k : Int) ≤ first.toInt - Int64.minValue.toInt) :
    (first - Int64.ofNat k).toInt = first.toInt - k := by
  have hf := first.toInt_lt
  rw [Int64.toInt_minValue] at h
  rw [Int64.toInt_sub, Int64.toInt_ofNat', show Int64.size = 2 ^ 64 from rfl, Int.sub_bmod_bmod]
  exact Int.bmod_eq_of_le (by omega) (by omega)

theorem Fits.toInt_sub {ids : IdSequence} (h : ids.Fits) {k : Nat} (hk : k < ids.drawn) :
    (ids.first - Int64.ofNat k).toInt = ids.first.toInt - k := by
  unfold Fits at h
  exact toInt_sub_ofNat (by omega)

theorem Fits.toInt_of_getElem? {ids : IdSequence} (h : ids.Fits) {k : Nat} {id : Int64}
    (hk : ids.members[k]? = some id) : id.toInt = ids.first.toInt - k := by
  rw [members, countdown, List.getElem?_map] at hk
  obtain ⟨j, hj, rfl⟩ := Option.map_eq_some_iff.1 hk
  obtain ⟨hlt, rfl⟩ := List.getElem?_eq_some_iff.1 hj
  rw [List.getElem_range]
  exact h.toInt_sub (by simpa using hlt)

theorem Fits.map_toInt_members {ids : IdSequence} (h : ids.Fits) :
    ids.members.map Int64.toInt =
      (List.range ids.drawn).map fun k : Nat => ids.first.toInt - k := by
  simp only [members, countdown, List.map_map]
  exact List.map_congr_left fun k hk => h.toInt_sub (List.mem_range.1 hk)

/-- The ids of two parts of a sequence that does not wrap. -/
theorem Fits.split {first : Int64} {m n : Nat} (h : Fits ⟨first, m + n⟩) :
    Fits ⟨first, m⟩ ∧ Fits ⟨first - Int64.ofNat m, n⟩ := by
  have hlt := (first - Int64.ofNat m).le_toInt
  have hsub := @toInt_sub_ofNat first m
  simp only [Fits, Int.natCast_add, Int64.toInt_minValue] at h hsub ⊢
  refine ⟨by omega, ?_⟩
  -- where the first part ends at the least id, nothing is left to be drawn
  rcases Nat.eq_zero_or_pos n with rfl | hn
  · omega
  · have := hsub (by omega)
    omega

theorem Fits.members_descend {ids : IdSequence} (h : ids.Fits) : ids.members.Pairwise (· > ·) := by
  simp only [gt_iff_lt, Int64.lt_iff_toInt_lt]
  rw [← List.pairwise_map (R := fun m n : Int => n < m), h.map_toInt_members, List.pairwise_map]
  exact List.pairwise_lt_range.imp fun hlt => by omega

theorem Fits.members_le_first {ids : IdSequence} (h : ids.Fits) {id : Int64}
    (hid : id ∈ ids.members) : id ≤ ids.first := by
  obtain ⟨k, hk, rfl⟩ := List.mem_map.1 hid
  rw [Int64.le_iff_toInt_le, h.toInt_sub (List.mem_range.1 hk)]
  omega

end IdSequence

end Wordbook
