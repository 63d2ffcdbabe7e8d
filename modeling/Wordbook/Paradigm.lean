import Wordbook.Order.SortedMap

/-!
# Paradigms

The form slots of a part of speech: singular and plural for a noun, infinitive
and participle for a verb. Slots stand in the order of their positions, and those
of equal position in the order in which they are declared. The first slot is the
base, the one that a dictionary cites a word by.

* `Paradigm.ofSlots`: the paradigm of some slots, which must not be none;
* `Paradigm.require`: the first slot with a name.
-/

namespace Wordbook

/-- A part of speech of the reference data. -/
structure PartOfSpeech where
  id : Int64
  tag : String
  deriving DecidableEq, Repr

/-- A place for a word form, such as the plural. -/
structure Slot where
  id : Int64
  name : String
  position : Nat
  deriving DecidableEq, Repr

/-- A fault in the reference data or in the way that creators are set up. -/
inductive SetupError where
  | noSlots (tag : String)
  | missingSlot (tag slot : String)
  | unknownLanguage (code : String)
  | alreadyInitialised (tag : String)
  deriving DecidableEq, Repr

def SetupError.message : SetupError → String
  | noSlots tag => s!"no form slots configured for part of speech '{tag}'"
  | missingSlot tag slot => s!"part of speech '{tag}' has no form slot '{slot}'"
  | unknownLanguage code => s!"unknown language '{code}'"
  | alreadyInitialised tag => s!"creator for '{tag}' is already initialised"

/-- The slots of a part of speech, at least one, in the order of their positions. -/
structure Paradigm where
  pos : PartOfSpeech
  slots : List Slot
  slots_ne_nil : slots ≠ []
  deriving DecidableEq

namespace Paradigm

/-- Slots in the order of their positions. -/
def order (slots : List Slot) : List Slot :=
  slots.mergeSort fun a b => a.position ≤ b.position

theorem order_ne_nil {slots : List Slot} (h : slots ≠ []) : order slots ≠ [] := by
  intro h'
  have := List.mergeSort_perm slots fun a b => a.position ≤ b.position
  rw [show slots.mergeSort _ = [] from h'] at this
  exact h this.nil_eq.symm

theorem order_of_pairwise {slots : List Slot} (h : slots.Pairwise (·.position ≤ ·.position)) :
    order slots = slots :=
  List.mergeSort_of_pairwise (h.imp decide_eq_true)

def ofSlots (pos : PartOfSpeech) (slots : List Slot) : Except SetupError Paradigm :=
  if h : slots = [] then .error (.noSlots pos.tag) else .ok ⟨pos, order slots, order_ne_nil h⟩

theorem ofSlots_of_pairwise {pos : PartOfSpeech} {slots : List Slot} (hne : slots ≠ [])
    (h : slots.Pairwise (·.position ≤ ·.position)) : ofSlots pos slots = .ok ⟨pos, slots, hne⟩ := by
  rw [ofSlots, dif_neg hne]
  simp only [order_of_pairwise h]

theorem ofSlots_eq_ok_iff {pos : PartOfSpeech} {slots : List Slot} {p : Paradigm} :
    ofSlots pos slots = .ok p ↔ slots ≠ [] ∧ p.pos = pos ∧ p.slots = order slots := by
  by_cases h : slots = []
  · simp [ofSlots, h]
  · cases p
    simp [ofSlots, h, eq_comm]

theorem ofSlots_eq_error_iff {pos : PartOfSpeech} {slots : List Slot} {e : SetupError} :
    ofSlots pos slots = .error e ↔ slots = [] ∧ e = .noSlots pos.tag := by
  by_cases h : slots = [] <;> simp [ofSlots, h, eq_comm]

/-- The slot that a word is cited by. -/
def base (p : Paradigm) : Slot := p.slots.head p.slots_ne_nil

theorem head?_slots (p : Paradigm) : p.slots.head? = some p.base :=
  List.head?_eq_some_head p.slots_ne_nil

/-- The first slot with this name. -/
def slot? (p : Paradigm) (name : String) : Option Slot := p.slots.find? (·.name == name)

def require (p : Paradigm) (name : String) : Except SetupError Slot :=
  match p.slot? name with
  | some slot => .ok slot
  | none => .error (.missingSlot p.pos.tag name)

theorem require_eq_ok_iff {p : Paradigm} {name : String} {slot : Slot} :
    p.require name = .ok slot ↔ p.slot? name = some slot := by
  rw [require]
  cases p.slot? name <;> simp

theorem require_eq_error_iff {p : Paradigm} {name : String} {e : SetupError} :
    p.require name = .error e ↔
      (∀ slot ∈ p.slots, slot.name ≠ name) ∧ e = .missingSlot p.pos.tag name := by
  have hnone : p.slot? name = none ↔ ∀ slot ∈ p.slots, slot.name ≠ name := by
    simp [slot?, List.find?_eq_none]
  rw [← hnone, require]
  cases p.slot? name <;> simp [eq_comm]

/-- The paradigms of several parts of speech, under their tags. -/
abbrev Table := SortedMap String Paradigm

namespace Table

/-- Adds a paradigm, in place of one with the same tag. -/
def add (table : Table) (p : Paradigm) : Table := table.insert p.pos.tag p

def require (table : Table) (tag : String) : Except SetupError Paradigm :=
  match table.get? tag with
  | some p => .ok p
  | none => .error (.noSlots tag)

end Table

end Paradigm

end Wordbook
