import Mathlib.Data.List.Basic
import Wordbook.Paradigm

/-!
# The order of slots

Slots may be declared in any order, and several of them may have the same name,
id or position. A paradigm has them in the order of their positions, those of
equal position as they are declared. There is only one such order, and what
stands first in it can be told from the declaration: it is the base, and of the
slots with a name the one that is found under it.

* `Slot.Leads`: the first declared of the slots of smallest position;
* `Slot.Arranges`: slots in their order, which is the only one
  (`Slot.Arranges.unique`) and begins with the slot that leads
  (`Slot.Arranges.head?_eq_some_iff`);
* `Paradigm.ofSlots_arranges`: the paradigm of any slots.
-/

namespace Wordbook

namespace Slot

/-- Of the slots of smallest position, this is the one that is declared first. -/
def Leads (slots : List Slot) (slot : Slot) : Prop :=
  ∃ before after, slots = before ++ slot :: after ∧
    (∀ other ∈ before, slot.position < other.position) ∧
    ∀ other ∈ after, slot.position ≤ other.position

namespace Leads

variable {slots : List Slot} {slot slot' : Slot}

theorem mem (h : Leads slots slot) : slot ∈ slots := by
  obtain ⟨before, after, rfl, -, -⟩ := h
  exact List.mem_append_right _ List.mem_cons_self

theorem position_le (h : Leads slots slot) {other : Slot} (hother : other ∈ slots) :
    slot.position ≤ other.position := by
  obtain ⟨before, after, rfl, hbefore, hafter⟩ := h
  rcases List.mem_append.1 hother with hother | hother
  · exact Nat.le_of_lt (hbefore other hother)
  · rcases List.mem_cons.1 hother with rfl | hother
    · exact Nat.le_refl _
    · exact hafter other hother

/-- No slot of the same position is declared before it. -/
theorem find?_eq (h : Leads slots slot) :
    slots.find? (·.position == slot.position) = some slot := by
  obtain ⟨before, after, rfl, hbefore, -⟩ := h
  refine List.find?_eq_some_iff_append.2 ⟨beq_self_eq_true _, before, after, rfl, ?_⟩
  intro other hother
  have hne : other.position ≠ slot.position := (Nat.ne_of_lt (hbefore other hother)).symm
  simpa using hne

theorem unique (h : Leads slots slot) (h' : Leads slots slot') : slot = slot' := by
  have hle := h.position_le h'.mem
  have hge := h'.position_le h.mem
  have hposition : slot.position = slot'.position := by omega
  have hfind := h.find?_eq
  rw [hposition, h'.find?_eq] at hfind
  exact (Option.some.inj hfind).symm

end Leads

/-- Some slots in the order of their positions, those of each position as they are declared. -/
structure Arranges (slots arranged : List Slot) : Prop where
  perm : arranged.Perm slots
  ascending : arranged.Pairwise (·.position ≤ ·.position)
  stable : ∀ k, arranged.filter (·.position == k) = slots.filter (·.position == k)

namespace Arranges

variable {slots arranged arranged' : List Slot} {slot : Slot}

/-- Slots that are left out may be left out before or after. -/
theorem filter (h : Arranges slots arranged) (q : Slot → Bool) :
    Arranges (slots.filter q) (arranged.filter q) where
  perm := h.perm.filter q
  ascending := h.ascending.filter q
  stable k := by rw [List.filter_comm, h.stable, List.filter_comm]

theorem tail (h : Arranges (slot :: slots) (slot :: arranged)) : Arranges slots arranged where
  perm := h.perm.cons_inv
  ascending := h.ascending.tail
  stable k := by
    have hk := h.stable k
    by_cases hslot : slot.position = k
    · simpa [hslot] using hk
    · simpa [hslot] using hk

theorem leads (h : Arranges slots (slot :: arranged)) : Leads slots slot := by
  have hle : ∀ other ∈ slots, slot.position ≤ other.position := by
    intro other hother
    rcases List.mem_cons.1 (h.perm.mem_iff.2 hother) with rfl | hother
    · exact Nat.le_refl _
    · exact List.rel_of_pairwise_cons h.ascending hother
  -- The slots of its position begin with it in both lists, so none of them is declared before it.
  have hfirst : slots.filter (·.position == slot.position) =
      slot :: arranged.filter (·.position == slot.position) := by
    rw [← h.stable]
    exact List.filter_cons_of_pos (beq_self_eq_true slot.position)
  obtain ⟨before, after, rfl, hbefore, -⟩ := List.filter_eq_cons_iff.1 hfirst
  refine ⟨before, after, rfl, fun other hother => ?_, fun other hother => ?_⟩
  · have hne : other.position ≠ slot.position := by simpa using hbefore other hother
    have hle := hle other (List.mem_append_left _ hother)
    omega
  · exact hle other (List.mem_append_right _ (List.mem_cons_of_mem _ hother))

/-- The slot that stands first is the one that leads. -/
theorem head?_eq_some_iff (h : Arranges slots arranged) :
    arranged.head? = some slot ↔ Leads slots slot := by
  constructor
  · intro hhead
    obtain ⟨rest, rfl⟩ := List.head?_eq_some_iff.1 hhead
    exact h.leads
  · intro hslot
    cases arranged with
    | nil => exact nomatch h.perm.mem_iff.2 hslot.mem
    | cons first rest => rw [List.head?_cons, h.leads.unique hslot]

/-- Slots that stand in their order already have no other one. -/
theorem eq_of_ascending (h : Arranges slots arranged)
    (hslots : slots.Pairwise (·.position ≤ ·.position)) : slots = arranged := by
  -- Both lists begin with the slot that leads, and what is behind it is in order again.
  induction slots generalizing arranged with
  | nil => exact h.perm.symm.nil_eq
  | cons slot slots ih =>
    cases arranged with
    | nil => exact nomatch h.perm.nil_eq
    | cons first rest =>
      have hself : Arranges (slot :: slots) (slot :: slots) := ⟨.refl _, hslots, fun _ => rfl⟩
      obtain rfl : slot = first := hself.leads.unique h.leads
      rw [ih h.tail hslots.tail]

theorem unique (h : Arranges slots arranged) (h' : Arranges slots arranged') :
    arranged = arranged' := by
  refine eq_of_ascending ⟨h'.perm.trans h.perm.symm, h'.ascending, fun k => ?_⟩ h.ascending
  rw [h'.stable, h.stable]

end Arranges

end Slot

namespace Paradigm

theorem arranges_order (slots : List Slot) : Slot.Arranges slots (order slots) := by
  have htrans (a b c : Slot) : decide (a.position ≤ b.position) → decide (b.position ≤ c.position) →
      decide (a.position ≤ c.position) := by
    simpa using Nat.le_trans
  have htotal (a b : Slot) :
      (decide (a.position ≤ b.position) || decide (b.position ≤ a.position)) = true := by
    simpa using Nat.le_total _ _
  have hperm : (order slots).Perm slots := List.mergeSort_perm ..
  refine ⟨hperm, (List.pairwise_mergeSort htrans htotal slots).imp of_decide_eq_true, fun k => ?_⟩
  -- The slots of one position are in order as they are declared. So the whole order has them like
  -- that, and it has no others.
  have hequal : (slots.filter (·.position == k)).Pairwise
      fun a b => decide (a.position ≤ b.position) := by
    refine List.pairwise_filter.2 (List.pairwise_of_forall_mem_list fun a _ b _ ha hb => ?_)
    rw [beq_iff_eq] at ha hb
    simp [ha, hb]
  have hsub : (slots.filter (·.position == k)).Sublist
      ((order slots).filter (·.position == k)) := by
    have hwhole := List.sublist_mergeSort htrans htotal hequal List.filter_sublist
    simpa [order] using hwhole.filter (·.position == k)
  exact (hsub.eq_of_length (hperm.filter _).length_eq.symm).symm

section

variable {p : Paradigm} {slots : List Slot} {slot : Slot}

theorem base_eq_iff (h : Slot.Arranges slots p.slots) : p.base = slot ↔ Slot.Leads slots slot := by
  rw [← h.head?_eq_some_iff, head?_slots, Option.some.injEq]

theorem slot?_eq_some_iff (h : Slot.Arranges slots p.slots) {name : String} :
    p.slot? name = some slot ↔ Slot.Leads (slots.filter (·.name == name)) slot := by
  rw [← (h.filter _).head?_eq_some_iff, List.head?_filter, slot?]

end

/-- Slots make a paradigm exactly if there are any. It has them in their order, its base leads all
of them, and the slot that is found under a name leads those with that name. -/
theorem ofSlots_arranges (pos : PartOfSpeech) (slots : List Slot) :
    (∀ e, ofSlots pos slots = .error e ↔ slots = [] ∧ e = .noSlots pos.tag) ∧
    (slots ≠ [] → ∃ p, ofSlots pos slots = .ok p ∧ p.pos = pos ∧
      (∀ arranged, Slot.Arranges slots arranged ↔ arranged = p.slots) ∧
      (∀ slot, p.base = slot ↔ Slot.Leads slots slot) ∧
      ∀ name,
        (∀ slot, p.require name = .ok slot ↔
          Slot.Leads (slots.filter (·.name == name)) slot) ∧
        ∀ e, p.require name = .error e ↔
          (∀ slot ∈ slots, slot.name ≠ name) ∧ e = .missingSlot pos.tag name) := by
  refine ⟨fun e => ofSlots_eq_error_iff, fun hne => ?_⟩
  let p : Paradigm := ⟨pos, order slots, order_ne_nil hne⟩
  have hp : Slot.Arranges slots p.slots := arranges_order slots
  refine ⟨p, ofSlots_eq_ok_iff.2 ⟨hne, rfl, rfl⟩, rfl, fun arranged => ?_, fun slot => ?_,
    fun name => ⟨fun slot => ?_, fun e => ?_⟩⟩
  · exact ⟨fun h => h.unique hp, fun h => h ▸ hp⟩
  · exact base_eq_iff hp
  · rw [require_eq_ok_iff, slot?_eq_some_iff hp]
  · simp only [require_eq_error_iff, hp.perm.mem_iff]
    rfl

/-- Slots with repeated names, ids and positions. The plural that is declared first stands last. -/
def sampleTied : List Slot :=
  [⟨3, "plural", 2⟩, ⟨4, "singular", 1⟩, ⟨4, "plural", 1⟩, ⟨5, "singular", 1⟩]

theorem ofSlots_arranges_tied :
    sampleTied ≠ [] ∧ ∃ p, ofSlots ⟨1, "n"⟩ sampleTied = .ok p ∧
      p.slots = [⟨4, "singular", 1⟩, ⟨4, "plural", 1⟩, ⟨5, "singular", 1⟩, ⟨3, "plural", 2⟩] ∧
      p.base = ⟨4, "singular", 1⟩ ∧ p.require "singular" = .ok ⟨4, "singular", 1⟩ ∧
      p.require "plural" = .ok ⟨4, "plural", 1⟩ ∧
      p.require "dual" = .error (.missingSlot "n" "dual") := by
  have hne : sampleTied ≠ [] := List.cons_ne_nil _ _
  obtain ⟨p, hp, -, harranges, hbase, hrequire⟩ := (ofSlots_arranges ⟨1, "n"⟩ sampleTied).2 hne
  have harranged : Slot.Arranges sampleTied
      [⟨4, "singular", 1⟩, ⟨4, "plural", 1⟩, ⟨5, "singular", 1⟩, ⟨3, "plural", 2⟩] := by
    refine ⟨by decide, by decide, fun k => ?_⟩
    by_cases hk : 1 = k
    · subst hk
      rfl
    · simp [sampleTied, List.filter_cons, hk]
  have hfirst : Slot.Leads sampleTied ⟨4, "singular", 1⟩ :=
    ⟨[⟨3, "plural", 2⟩], [⟨4, "plural", 1⟩, ⟨5, "singular", 1⟩], rfl, by decide, by decide⟩
  have hsingular : Slot.Leads (sampleTied.filter (·.name == "singular")) ⟨4, "singular", 1⟩ :=
    ⟨[], [⟨5, "singular", 1⟩], rfl, by decide, by decide⟩
  have hplural : Slot.Leads (sampleTied.filter (·.name == "plural")) ⟨4, "plural", 1⟩ :=
    ⟨[⟨3, "plural", 2⟩], [], rfl, by decide, by decide⟩
  have hdual : ∀ slot ∈ sampleTied, slot.name ≠ "dual" := by decide
  exact ⟨hne, p, hp, ((harranges _).1 harranged).symm, (hbase _).2 hfirst,
    ((hrequire _).1 _).2 hsingular, ((hrequire _).1 _).2 hplural, ((hrequire _).2 _).2 ⟨hdual, rfl⟩⟩

end Paradigm

end Wordbook
