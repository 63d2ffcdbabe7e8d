import Wordbook.Order.SortedSet

/-!
# Finite maps as ascending lists of entries

A map is kept as the list of its entries in ascending order of the keys, each
key once. Inserting under a key that is present replaces its value.

* `keys_ascending`: the keys of a map ascend;
* `get?_ofList`: of two entries with the same key the later one counts;
* `entries_ofList`: entries that ascend are kept as they are.
-/

namespace Wordbook

universe u v

/-- A finite map, kept as its entries in ascending order of their keys. -/
structure SortedMap (α : Type u) (β : Type v) [LT α] where
  entries : List (α × β)
  ascending : entries.Pairwise (fun a b => a.1 < b.1)
  deriving DecidableEq

namespace SortedMap

variable {α : Type u} {β : Type v} [LT α]

instance : EmptyCollection (SortedMap α β) := ⟨⟨[], .nil⟩⟩

instance : Inhabited (SortedMap α β) := ⟨∅⟩

def isEmpty (m : SortedMap α β) : Bool := m.entries.isEmpty

def size (m : SortedMap α β) : Nat := m.entries.length

def keys (m : SortedMap α β) : List α := m.entries.map Prod.fst

theorem keys_ascending (m : SortedMap α β) : m.keys.Pairwise (fun a b => a < b) :=
  List.pairwise_map.2 m.ascending

def get? [BEq α] (m : SortedMap α β) (a : α) : Option β := m.entries.lookup a

def singleton (a : α) (b : β) : SortedMap α β := ⟨[(a, b)], by simp⟩

/-- Puts an entry at its place in an ascending list, in place of one with the same key. -/
def insertList [DecidableLT α] (a : α) (b : β) : List (α × β) → List (α × β)
  | [] => [(a, b)]
  | e :: l =>
    if a < e.1 then (a, b) :: e :: l
    else if e.1 < a then e :: insertList a b l
    else (e.1, b) :: l

theorem mem_of_mem_insertList [DecidableLT α] {a : α} {b : β} {x : α × β} {l : List (α × β)}
    (h : x ∈ insertList a b l) : x.1 = a ∨ ∃ y ∈ l, x.1 = y.1 := by
  induction l with
  | nil => left; simp [insertList] at h; simp [h]
  | cons e l ih =>
    simp only [insertList] at h
    split at h
    · rcases List.mem_cons.1 h with rfl | h
      · exact .inl rfl
      · exact .inr ⟨x, h, rfl⟩
    · split at h
      · rcases List.mem_cons.1 h with rfl | h
        · exact .inr ⟨x, by simp, rfl⟩
        · rcases ih h with h | ⟨y, hy, h⟩
          · exact .inl h
          · exact .inr ⟨y, by simp [hy], h⟩
      · rcases List.mem_cons.1 h with rfl | h
        · exact .inr ⟨e, by simp, rfl⟩
        · exact .inr ⟨x, by simp [h], rfl⟩

theorem eq_or_mem_of_mem_insertList [DecidableLT α] [Std.Trichotomous fun a b : α => a < b] {a : α}
    {b : β} {x : α × β} {l : List (α × β)} (h : x ∈ insertList a b l) : x = (a, b) ∨ x ∈ l := by
  induction l with
  | nil => exact .inl (List.mem_singleton.1 h)
  | cons e l ih =>
    simp only [insertList] at h
    split at h
    · exact List.mem_cons.1 h
    · split at h
      · rcases List.mem_cons.1 h with rfl | h
        · exact .inr List.mem_cons_self
        · exact (ih h).imp_right (List.mem_cons_of_mem _)
      · rename_i hae hea
        rcases List.mem_cons.1 h with rfl | h
        · left
          rw [Std.Trichotomous.trichotomous (r := fun a b : α => a < b) _ _ hae hea]
        · exact .inr (List.mem_cons_of_mem _ h)

variable [DecidableLT α]
  [Trans (fun a b : α => a < b) (fun a b : α => a < b) (fun a b : α => a < b)]

theorem pairwise_insertList {a : α} {b : β} {l : List (α × β)}
    (h : l.Pairwise (fun a b => a.1 < b.1)) :
    (insertList a b l).Pairwise (fun a b => a.1 < b.1) := by
  induction l with
  | nil => simp [insertList]
  | cons e l ih =>
    have he := List.pairwise_cons.1 h
    simp only [insertList]
    split
    · rename_i hae
      refine List.pairwise_cons.2 ⟨fun c hc => ?_, h⟩
      rcases List.mem_cons.1 hc with rfl | hc
      · exact hae
      · exact Trans.trans hae (he.1 c hc)
    · split
      · rename_i hea
        refine List.pairwise_cons.2 ⟨fun c hc => ?_, ih he.2⟩
        rcases mem_of_mem_insertList hc with hc | ⟨y, hy, hc⟩
        · exact hc ▸ hea
        · exact hc ▸ he.1 y hy
      · exact List.pairwise_cons.2 ⟨he.1, he.2⟩

def insert (m : SortedMap α β) (a : α) (b : β) : SortedMap α β :=
  ⟨insertList a b m.entries, pairwise_insertList m.ascending⟩

/-- The map of a list of entries; of two with the same key the later one counts. -/
def ofList (l : List (α × β)) : SortedMap α β := l.foldl (fun m e => m.insert e.1 e.2) ∅

/-- A key beyond all others goes to the end. -/
theorem entries_insert_of_lt [Std.Irrefl fun a b : α => a < b] (m : SortedMap α β) {a : α} (b : β)
    (h : ∀ e ∈ m.entries, e.1 < a) : (m.insert a b).entries = m.entries ++ [(a, b)] := by
  show insertList a b m.entries = _
  generalize m.entries = l at h
  induction l with
  | nil => rfl
  | cons e l ih =>
    obtain ⟨he, hl⟩ := List.forall_mem_cons.1 h
    have hnlt : ¬a < e.1 := fun hae =>
      Std.Irrefl.irrefl (r := fun a b : α => a < b) a (Trans.trans hae he)
    rw [insertList, if_neg hnlt, if_pos he, ih hl, List.cons_append]

theorem entries_ofList [Std.Irrefl fun a b : α => a < b] {l : List (α × β)}
    (h : l.Pairwise fun a b => a.1 < b.1) : (ofList l).entries = l := by
  suffices hfoldl : ∀ m : SortedMap α β, (∀ e ∈ m.entries, ∀ f ∈ l, e.1 < f.1) →
      (l.foldl (fun m e => m.insert e.1 e.2) m).entries = m.entries ++ l from hfoldl ∅ nofun
  induction l with
  | nil => exact fun m _ => (List.append_nil _).symm
  | cons e l ih =>
    intro m hm
    obtain ⟨he, hl⟩ := List.pairwise_cons.1 h
    have hinsert := m.entries_insert_of_lt e.2 fun f hf => hm f hf e List.mem_cons_self
    rw [List.foldl_cons, ih hl, hinsert, List.append_assoc, List.singleton_append]
    rw [hinsert]
    intro f hf g hg
    rcases List.mem_append.1 hf with hf | hf
    · exact hm f hf g (List.mem_cons_of_mem _ hg)
    · rw [List.mem_singleton.1 hf]
      exact he g hg

/-- A map has no entries but those of the list that it is made of. -/
theorem mem_of_mem_ofList [Std.Trichotomous fun a b : α => a < b] {x : α × β} {l : List (α × β)}
    (h : x ∈ (ofList l).entries) : x ∈ l := by
  suffices hfoldl : ∀ m : SortedMap α β, x ∈ (l.foldl (fun m e => m.insert e.1 e.2) m).entries →
      x ∈ m.entries ∨ x ∈ l from (hfoldl ∅ h).resolve_left List.not_mem_nil
  clear h
  induction l with
  | nil => exact fun m h => .inl h
  | cons e l ih =>
    intro m h
    rcases ih _ h with h | h
    · rcases eq_or_mem_of_mem_insertList h with rfl | h
      · exact .inr List.mem_cons_self
      · exact .inl h
    · exact .inr (List.mem_cons_of_mem _ h)

/-! ## Look-up -/

theorem mem_keys_insert_iff [Std.Trichotomous fun a b : α => a < b] {m : SortedMap α β} {a k : α}
    {b : β} : k ∈ (m.insert a b).keys ↔ k = a ∨ k ∈ m.keys := by
  show k ∈ (insertList a b m.entries).map Prod.fst ↔ k = a ∨ k ∈ m.entries.map Prod.fst
  induction m.entries with
  | nil => simp [insertList]
  | cons e l ih =>
    simp only [insertList]
    split
    · simp
    · split
      · simp [ih, or_left_comm]
      · rename_i hae hea
        rw [Std.Trichotomous.trichotomous (r := fun a b : α => a < b) _ _ hae hea]
        simp

theorem lookup_cons_eq_ite {κ : Type u} [DecidableEq κ] (k a : κ) (b : β) (l : List (κ × β)) :
    ((a, b) :: l).lookup k = if k = a then some b else l.lookup k := by
  rw [List.lookup_cons]
  split
  · rename_i h
    rw [if_pos (beq_iff_eq.1 h)]
  · rename_i h
    rw [if_neg (beq_eq_false_iff_ne.1 h)]

variable [DecidableEq α] [Std.Irrefl fun a b : α => a < b] [Std.Trichotomous fun a b : α => a < b]

theorem get?_insert (m : SortedMap α β) (a k : α) (b : β) :
    (m.insert a b).get? k = if k = a then some b else m.get? k := by
  show (insertList a b m.entries).lookup k = if k = a then some b else m.entries.lookup k
  induction m.entries with
  | nil => exact lookup_cons_eq_ite ..
  | cons e l ih =>
    obtain ⟨c, d⟩ := e
    simp only [insertList]
    split
    · exact lookup_cons_eq_ite ..
    · split
      · rename_i hca
        have hne : a ≠ c := fun h =>
          Std.Irrefl.irrefl (r := fun a b : α => a < b) a (h ▸ hca : a < a)
        rw [lookup_cons_eq_ite, ih, lookup_cons_eq_ite]
        by_cases h : k = a
        · rw [if_neg (h ▸ hne), if_pos h, if_pos h]
        · rw [if_neg h, if_neg h]
      · rename_i hac hca
        obtain rfl : a = c :=
          Std.Trichotomous.trichotomous (r := fun a b : α => a < b) _ _ hac hca
        rw [lookup_cons_eq_ite, lookup_cons_eq_ite]
        split <;> rfl

theorem get?_ofList (l : List (α × β)) (k : α) : (ofList l).get? k = l.reverse.lookup k := by
  suffices hfoldl : ∀ m : SortedMap α β, (l.foldl (fun m e => m.insert e.1 e.2) m).get? k =
      (l.reverse.lookup k).or (m.get? k) from (hfoldl ∅).trans Option.or_none
  induction l with
  | nil => exact fun m => rfl
  | cons e l ih =>
    intro m
    rw [List.foldl_cons, ih, List.reverse_cons, List.lookup_append, Option.or_assoc, get?_insert,
      lookup_cons_eq_ite]
    refine congrArg _ ?_
    split <;> rfl

end SortedMap

end Wordbook
