import Mathlib.Data.List.Sort
import Wordbook.Cell.Auxiliary
import Wordbook.Cell.Genus
import Wordbook.Proofs.Except
import Wordbook.Proofs.Trim

/-!
# What is read off a cell

Neither a text that is read off a cell nor a tag in it is empty.

* `Cell.takeArticle_eq_ok`, `Cell.takeLeadingAuxiliary_ne_nil`: the texts;
* `Cell.takeGenus_ne_empty`, `Cell.takeAuxiliaries_ne_empty`: the tags.
-/

namespace Wordbook

section

variable {α : Type} [LT α] [DecidableLT α]
  [Trans (fun a b : α => a < b) (fun a b : α => a < b) (fun a b : α => a < b)]

theorem SortedSet.mem_of_mem_insert {s : SortedSet α} {a b : α} (h : b ∈ s.insert a) :
    b = a ∨ b ∈ s :=
  mem_of_mem_insertList h

theorem SortedSet.mem_of_mem_ofList {l : List α} {a : α} (h : a ∈ SortedSet.ofList l) : a ∈ l := by
  induction l using List.reverseRecOn with
  | nil => exact absurd h List.not_mem_nil
  | append_singleton l b ih =>
    rw [ofList, List.foldl_append] at h
    rcases mem_of_mem_insert h with rfl | h
    · simp
    · exact List.mem_append_left _ (ih h)

omit [Trans (fun a b : α => a < b) (fun a b : α => a < b) (fun a b : α => a < b)] in
theorem SortedSet.mem_insertList [Std.Trichotomous (fun a b : α => a < b)] {a x : α} {l : List α} :
    x ∈ insertList a l ↔ x = a ∨ x ∈ l := by
  refine ⟨mem_of_mem_insertList, fun h => ?_⟩
  induction l with
  | nil => simpa [insertList] using h
  | cons b l ih =>
    rw [insertList]
    split
    · simpa using h
    · rename_i hab
      split
      · rcases h with rfl | h
        · exact List.mem_cons_of_mem _ (ih (.inl rfl))
        · rcases List.mem_cons.1 h with rfl | h
          · exact List.mem_cons_self
          · exact List.mem_cons_of_mem _ (ih (.inr h))
      · rename_i hba
        obtain rfl : a = b := Std.Trichotomous.trichotomous a b hab hba
        rcases h with rfl | h
        · exact List.mem_cons_self
        · exact h

theorem SortedSet.mem_ofList [Std.Trichotomous (fun a b : α => a < b)] {l : List α} {a : α} :
    a ∈ SortedSet.ofList l ↔ a ∈ l := by
  refine ⟨mem_of_mem_ofList, fun h => ?_⟩
  induction l using List.reverseRecOn with
  | nil => exact absurd h List.not_mem_nil
  | append_singleton l b ih =>
    rw [ofList, List.foldl_append]
    refine mem_insertList.2 ?_
    rcases List.mem_append.1 h with h | h
    · exact .inr (ih h)
    · exact .inl (List.mem_singleton.1 h)

omit [DecidableLT α] [Trans (fun a b : α => a < b) (fun a b : α => a < b) (fun a b : α => a < b)] in
theorem SortedSet.eq_of_mem_iff [Std.Asymm (fun a b : α => a < b)] {s t : SortedSet α}
    (h : ∀ a, a ∈ s ↔ a ∈ t) : s = t := by
  obtain ⟨members, hascending⟩ := s
  obtain ⟨members', hascending'⟩ := t
  obtain rfl := hascending.eq_of_mem_iff hascending' h
  rfl

/-- However the members of a set are listed, they give back the set. -/
theorem SortedSet.ofList_eq_of_perm [Std.Trichotomous (fun a b : α => a < b)]
    [Std.Asymm (fun a b : α => a < b)] {l : List α} {s : SortedSet α} (h : l.Perm s.toList) :
    SortedSet.ofList l = s :=
  eq_of_mem_iff fun _ => mem_ofList.trans h.mem_iff

end

theorem mem_of_lookup {α β : Type} [BEq α] [LawfulBEq α] {a : α} {b : β} {l : List (α × β)}
    (h : l.lookup a = some b) : (a, b) ∈ l := by
  obtain ⟨before, after, rfl, -⟩ := List.lookup_eq_some_iff.1 h
  simp

namespace Cell

open Text

theorem Parts.first_eq_of_toList {p : Parts} {part : List Char} {rest : List (List Char)}
    (h : p.toList = part :: rest) : p.first = part := by
  rcases p with ⟨_ | _, _⟩
  all_goals exact (List.cons_eq_cons.1 h).1

theorem takeArticle_eq_ok {t text : List Char} {genus : String}
    (h : takeArticle t = .ok (text, genus)) : text ≠ [] ∧ genus ∈ articles.map Prod.snd := by
  unfold takeArticle at h
  dsimp only at h
  split at h
  · rename_i r hr
    obtain rfl := Except.ok.inj h
    obtain ⟨_, harticle, hr⟩ := List.exists_of_findSome?_eq_some hr
    split at hr
    · split at hr
      · rename_i hrest
        obtain ⟨rfl, rfl⟩ := Prod.mk.inj (Option.some.inj hr)
        simp only [Bool.and_eq_true, Bool.not_eq_true', List.isEmpty_eq_false_iff] at hrest
        refine ⟨?_, List.mem_map_of_mem harticle⟩
        rw [Ne, trim_eq_nil_iff, isBlankText_trimStart, ← trimStart_eq_nil_iff]
        exact hrest.1.2
      · nomatch hr
    · nomatch hr
  · nomatch h

theorem takeArticle_ne_empty {t text : List Char} {genus : String}
    (h : takeArticle t = .ok (text, genus)) : "" ∉ SortedSet.singleton genus := by
  rw [SortedSet.mem_def, SortedSet.singleton, List.mem_singleton]
  rintro rfl
  exact absurd (takeArticle_eq_ok h).2 (by decide)

theorem takeLeadingAuxiliary_ne_nil {t : List Char} (h : isBlankText t = false) :
    (takeLeadingAuxiliary t).1 ≠ [] := by
  have hwhole : trim t ≠ [] := by rw [Ne, trim_eq_nil_iff, h]; nofun
  unfold takeLeadingAuxiliary
  dsimp only
  split
  · split
    · rename_i hrest
      simp only [Bool.and_eq_true, Bool.not_eq_true', List.isEmpty_eq_false_iff] at hrest
      exact hrest.2
    · exact hwhole
  · exact hwhole

theorem auxiliaries_ne_empty {spelling verb : String}
    (h : auxiliaries.lookup spelling = some verb) : verb ≠ "" := by
  have hverbs : ∀ e ∈ auxiliaries, e.2 ≠ "" := by decide
  exact hverbs _ (mem_of_lookup h)

theorem takeLeadingAuxiliary_ne_empty {t : List Char} {verb : String}
    (h : (takeLeadingAuxiliary t).2 = some verb) : verb ≠ "" := by
  unfold takeLeadingAuxiliary at h
  dsimp only at h
  split at h
  · split at h
    · exact auxiliaries_ne_empty h
    · nomatch h
  · nomatch h

theorem takeGenus_ne_empty {t text : List Char} {allowed : List String} {genera : SortedSet String}
    (hallowed : "" ∉ allowed) (h : takeGenus t allowed = .ok (text, genera)) : "" ∉ genera := by
  have hne {tag : String} (h : allowed.contains tag) : "" ≠ tag := fun heq =>
    hallowed (heq ▸ List.contains_iff_mem.1 h)
  unfold takeGenus at h
  split at h
  · obtain ⟨tags, htags, heq⟩ := map_eq_ok_iff.1 h
    obtain rfl := congrArg Prod.snd heq
    obtain ⟨found, hfound, heq⟩ := bind_eq_ok_iff.1 htags
    obtain rfl := Except.ok.inj heq
    intro hmem
    obtain ⟨name, -, hname⟩ := exists_of_mem_mapM hfound (SortedSet.mem_of_mem_ofList hmem)
    dsimp only at hname
    split at hname
    · exact hne ‹_› (Except.ok.inj hname).symm
    · nomatch hname
  · dsimp only at h
    split at h
    · split at h
      · rename_i htag
        obtain rfl := congrArg Prod.snd (Except.ok.inj h)
        rw [SortedSet.mem_def, SortedSet.singleton, List.mem_singleton]
        exact hne (Bool.and_eq_true_iff.1 htag).1
      · obtain rfl := congrArg Prod.snd (Except.ok.inj h)
        exact List.not_mem_nil
    · obtain rfl := congrArg Prod.snd (Except.ok.inj h)
      exact List.not_mem_nil

theorem takeAuxiliaries_ne_empty {t text : List Char} {listed : SortedSet String}
    (h : takeAuxiliaries t = .ok (text, listed)) : "" ∉ listed := by
  unfold takeAuxiliaries at h
  split at h
  · obtain ⟨verbs, hverbs, heq⟩ := bind_eq_ok_iff.1 h
    obtain rfl := congrArg Prod.snd (Except.ok.inj heq)
    intro hmem
    obtain ⟨name, -, hname⟩ := exists_of_mem_mapM hverbs (SortedSet.mem_of_mem_ofList hmem)
    unfold auxiliaryVerb at hname
    split at hname
    · rename_i hlookup
      exact auxiliaries_ne_empty hlookup (Except.ok.inj hname)
    · nomatch hname
  · obtain rfl := congrArg Prod.snd (Except.ok.inj h)
    exact List.not_mem_nil

end Cell

end Wordbook
