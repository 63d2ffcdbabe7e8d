/-!
# Finite sets as ascending lists

A set is kept as the ascending list of its members, so two sets with the same
members are equal and every listing of a set comes out in order.

* `pairwise_insertList`: insertion at its place keeps a list ascending.
-/

namespace Wordbook

universe u

-- The orders of texts and ids are transitive by these proofs, whatever else is known of them.

instance (priority := 1100) transLtString :
    Trans (fun a b : String => a < b) (fun a b : String => a < b) (fun a b : String => a < b) :=
  ⟨String.lt_trans⟩

instance (priority := 1100) transLtInt64 :
    Trans (fun a b : Int64 => a < b) (fun a b : Int64 => a < b) (fun a b : Int64 => a < b) :=
  ⟨Int64.lt_trans⟩

/-- A finite set, kept as the ascending list of its members. -/
structure SortedSet (α : Type u) [LT α] where
  toList : List α
  ascending : toList.Pairwise (fun a b => a < b)
  deriving DecidableEq

namespace SortedSet

variable {α : Type u} [LT α]

instance : EmptyCollection (SortedSet α) := ⟨⟨[], .nil⟩⟩

instance : Inhabited (SortedSet α) := ⟨∅⟩

instance : Membership α (SortedSet α) := ⟨fun s a => a ∈ s.toList⟩

theorem mem_def {s : SortedSet α} {a : α} : a ∈ s ↔ a ∈ s.toList := Iff.rfl

instance [DecidableEq α] (s : SortedSet α) (a : α) : Decidable (a ∈ s) :=
  inferInstanceAs (Decidable (a ∈ s.toList))

def isEmpty (s : SortedSet α) : Bool := s.toList.isEmpty

def size (s : SortedSet α) : Nat := s.toList.length

def singleton (a : α) : SortedSet α := ⟨[a], by simp⟩

/-- Puts `a` at its place in an ascending list; a member stays as it is. -/
def insertList [DecidableLT α] (a : α) : List α → List α
  | [] => [a]
  | b :: l => if a < b then a :: b :: l else if b < a then b :: insertList a l else b :: l

theorem mem_of_mem_insertList [DecidableLT α] {a x : α} {l : List α} (h : x ∈ insertList a l) :
    x = a ∨ x ∈ l := by
  induction l with
  | nil => simpa [insertList] using h
  | cons b l ih =>
    simp only [insertList] at h
    split at h
    · simpa using h
    · split at h
      · rcases List.mem_cons.1 h with rfl | h
        · simp
        · rcases ih h with h | h <;> simp [h]
      · exact .inr h

variable [DecidableLT α]
  [Trans (fun a b : α => a < b) (fun a b : α => a < b) (fun a b : α => a < b)]

theorem pairwise_insertList {a : α} {l : List α} (h : l.Pairwise (fun a b => a < b)) :
    (insertList a l).Pairwise (fun a b => a < b) := by
  induction l with
  | nil => simp [insertList]
  | cons b l ih =>
    have hb := List.pairwise_cons.1 h
    simp only [insertList]
    split
    · rename_i hab
      refine List.pairwise_cons.2 ⟨fun c hc => ?_, h⟩
      rcases List.mem_cons.1 hc with rfl | hc
      · exact hab
      · exact Trans.trans hab (hb.1 c hc)
    · split
      · rename_i hba
        refine List.pairwise_cons.2 ⟨fun c hc => ?_, ih hb.2⟩
        rcases mem_of_mem_insertList hc with rfl | hc
        · exact hba
        · exact hb.1 c hc
      · exact h

def insert (s : SortedSet α) (a : α) : SortedSet α :=
  ⟨insertList a s.toList, pairwise_insertList s.ascending⟩

/-- The set of the members of a list, in any order and with repetitions. -/
def ofList (l : List α) : SortedSet α := l.foldl insert ∅

end SortedSet

end Wordbook
