import Mathlib.Tactic.SplitIfs
import Wordbook.Command.Folder
import Wordbook.Proofs.Except

/-!
# Files that are stored

A file that is stored in a folder is loaded again from the same path.

* `Folder.store_cases`: the null device takes everything, and so do the folders
  around; what is stored inside is there.
* `Folder.load_of_store`: what is stored is loaded.
-/

namespace Wordbook

namespace Folder

variable {folder folder' : Folder} {path key : String} {bytes : List UInt8}

/-- The folder with a file, whether the path is free or not. -/
def withFile (folder : Folder) (key : String) (bytes : List UInt8) : Folder :=
  ⟨folder.files.insert key bytes⟩

theorem file?_withFile (folder : Folder) (key : String) (bytes : List UInt8) :
    (folder.withFile key bytes).file? key = some bytes := by
  rw [file?, withFile, SortedMap.get?_insert, if_pos rfl]

theorem hasFolder_withFile_iff {name : String} : (folder.withFile key bytes).hasFolder name ↔
    key.startsWith (name ++ "/") ∨ folder.hasFolder name := by
  simp only [hasFolder, List.any_eq_true, withFile, SortedMap.mem_keys_insert_iff]
  constructor
  · rintro ⟨k, rfl | hk, hstarts⟩
    · exact .inl hstarts
    · exact .inr ⟨k, hk, hstarts⟩
  · rintro (hstarts | ⟨k, hk, hstarts⟩)
    · exact ⟨key, .inl rfl, hstarts⟩
    · exact ⟨k, .inr hk, hstarts⟩

/-- No path is that of a folder by being that of a file. -/
theorem not_startsWith_self (key : String) : ¬key.startsWith (key ++ "/") := by
  rw [String.startsWith_string_iff, String.toList_append]
  intro h
  have hle := h.length_le
  rw [List.length_append] at hle
  exact absurd hle (by simp)

theorem hasFolder_withFile_self :
    (folder.withFile key bytes).hasFolder key = folder.hasFolder key := by
  rw [Bool.eq_iff_iff, hasFolder_withFile_iff]
  exact or_iff_right (not_startsWith_self key)

/-- A way that leads somewhere still leads there when there is one more file. -/
theorem enter_withFile {place next : Place} {step : String}
    (h : folder.enter place step = .ok next) :
    (folder.withFile key bytes).enter place step = .ok next := by
  unfold enter at h ⊢
  split_ifs at h ⊢ with hdot hdots hlong
  · exact h
  · exact h
  · cases place with
    | around => nomatch h
    | inside names =>
      dsimp only at h ⊢
      split at h
      · rename_i hfolder
        rw [if_pos (hasFolder_withFile_iff.2 (.inr hfolder))]
        exact h
      · split at h <;> nomatch h

theorem foldlM_enter_withFile {steps : List String} {start stop : Place}
    (h : steps.foldlM folder.enter start = .ok stop) :
    steps.foldlM (folder.withFile key bytes).enter start = .ok stop := by
  induction steps generalizing start with
  | nil => exact h
  | cons step steps ih =>
    rw [List.foldlM_cons] at h ⊢
    obtain ⟨next, hnext, h⟩ := bind_eq_ok_iff.1 h
    rw [enter_withFile hnext]
    exact ih h

theorem locate_withFile {target : Target} (h : folder.locate path = .ok target) :
    (folder.withFile key bytes).locate path = .ok target := by
  unfold locate at h ⊢
  dsimp only at h ⊢
  by_cases hlong : maxPath < path.utf8ByteSize
  · rw [if_pos hlong] at h
    nomatch h
  · by_cases hempty : path = ""
    · rw [if_neg hlong, if_pos hempty] at h
      nomatch h
    · rw [if_neg hlong, if_neg hempty] at h ⊢
      obtain ⟨place, hplace, h⟩ := bind_eq_ok_iff.1 h
      rw [foldlM_enter_withFile hplace]
      exact h

/-- What the storing of a file comes to if it does not fail. -/
theorem store_cases (h : folder.store path bytes = .ok folder') :
    (path = nullDevice ∨ ∃ name, folder.locate path = .ok (.entry .around name false)) ∧
      folder' = folder ∨
    ∃ names name, folder.locate path = .ok (.entry (.inside names) name false) ∧
      path ≠ nullDevice ∧ name.utf8ByteSize ≤ maxName ∧ folder.hasFolder (join names name) = false ∧
      folder' = folder.withFile (join names name) bytes := by
  unfold store at h
  by_cases hnull : path = nullDevice
  · rw [if_pos hnull] at h
    exact .inl ⟨.inl hnull, (Except.ok.inj h).symm⟩
  · rw [if_neg hnull] at h
    obtain ⟨target, htarget, h⟩ := bind_eq_ok_iff.1 h
    cases target with
    | folder => nomatch h
    | entry place name slash =>
      dsimp only at h
      by_cases hlong : maxName < name.utf8ByteSize
      · rw [if_pos hlong] at h
        cases slash <;> nomatch h
      · rw [if_neg hlong] at h
        cases slash with
        | true => nomatch h
        | false =>
          cases place with
          | around => exact .inl ⟨.inr ⟨name, htarget⟩, (Except.ok.inj h).symm⟩
          | inside names =>
            dsimp only at h
            by_cases hfolder : folder.hasFolder (join names name)
            · rw [if_pos hfolder] at h
              nomatch h
            · rw [if_neg hfolder] at h
              exact .inr ⟨names, name, htarget, hnull, Nat.le_of_not_lt hlong,
                Bool.eq_false_iff.2 hfolder, (Except.ok.inj h).symm⟩

theorem load_of_file? {names : List String} {name : String} (hnull : path ≠ nullDevice)
    (hlocate : folder.locate path = .ok (.entry (.inside names) name false))
    (hlong : name.utf8ByteSize ≤ maxName) (hfolder : folder.hasFolder (join names name) = false)
    (hfile : folder.file? (join names name) = some bytes) : folder.load path = .ok bytes := by
  rw [load, if_neg hnull, hlocate]
  show (if maxName < name.utf8ByteSize then _ else _) = _
  rw [if_neg (Nat.not_lt_of_le hlong), if_neg (Bool.eq_false_iff.1 hfolder), hfile]
  rfl

/-- A file that is stored is there, unless nothing is kept of what is stored under its path. -/
theorem load_of_store (h : folder.store path bytes = .ok folder') :
    path = nullDevice ∨ (∃ name, folder'.locate path = .ok (.entry .around name false)) ∨
      folder'.load path = .ok bytes := by
  rcases store_cases h with
    ⟨hnull | haround, rfl⟩ | ⟨names, name, hlocate, hnull, hlong, hfolder, rfl⟩
  · exact .inl hnull
  · exact .inr (.inl haround)
  · exact .inr (.inr (load_of_file? hnull (locate_withFile hlocate) hlong
      (hasFolder_withFile_self.trans hfolder) (file?_withFile ..)))

end Folder

end Wordbook
