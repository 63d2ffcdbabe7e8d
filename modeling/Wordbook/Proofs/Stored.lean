import Wordbook.Proofs.Folder
import Wordbook.Proofs.Separators

/-!
# Files that are stored one after another

A path leads through folders that have files in them. So a file that is stored
where another path leads takes neither that way nor what is stored there.

* `Folder.not_startsWith_join`: a file is stored in no folder that is not there;
* `Folder.Writable.after_store`: what can be stored can still be stored later;
* `Folder.holds_of_store`: what is stored stays, unless it is stored over;
* `Folder.StoresAt`: a file that is stored if there is something to store, and a path for it.
-/

namespace Wordbook

namespace Folder

variable {folder folder' : Folder} {path key : String} {bytes : List UInt8}

theorem hasFolder_iff {name : String} :
    folder.hasFolder name ↔ ∃ k ∈ folder.files.keys, name.toList ++ ['/'] <+: k.toList := by
  simp only [hasFolder, List.any_eq_true, String.startsWith_string_iff, String.toList_append]
  rfl

/-- The path of a folder, a name in which makes a path. -/
theorem toList_join_of_ne_nil {names : List String} (h : names ≠ []) (name : String) :
    (join names name).toList = ("/".intercalate names).toList ++ ['/'] ++ name.toList := by
  rw [join, String.intercalate_append_of_ne_nil h (List.cons_ne_nil _ _),
    String.intercalate_singleton, String.toList_append, String.toList_append]
  rfl

/-- A place that can be walked to: the folder that it is in is there. -/
def Place.IsThere (folder : Folder) : Place → Prop
  | inside names => names = [] ∨ folder.hasFolder ("/".intercalate names)
  | around => True

theorem Place.IsThere.up {place : Place} (h : place.IsThere folder) : place.up.IsThere folder := by
  cases place with
  | around => trivial
  | inside names =>
    cases names using List.reverseRecOn with
    | nil => trivial
    | append_singleton names name =>
      have hup : (inside (names ++ [name])).up = inside names := by
        cases names with
        | nil => rfl
        | cons first rest => exact congrArg inside List.dropLast_concat
      rw [hup]
      by_cases hnames : names = []
      · exact .inl hnames
      · have hfolder := h.resolve_left (List.concat_ne_nil _ _)
        obtain ⟨k, hk, hbegin⟩ := hasFolder_iff.1 hfolder
        refine .inr (hasFolder_iff.2 ⟨k, hk, .trans ?_ hbegin⟩)
        have hjoin := toList_join_of_ne_nil hnames name
        rw [join] at hjoin
        rw [hjoin, List.append_assoc]
        exact List.prefix_append _ _

theorem isThere_enter {place next : Place} {step : String}
    (h : folder.enter place step = .ok next) (hplace : place.IsThere folder) :
    next.IsThere folder := by
  unfold enter at h
  split_ifs at h with hdot hdots hlong
  · obtain rfl := Except.ok.inj h
    exact hplace
  · obtain rfl := Except.ok.inj h
    exact hplace.up
  · cases place with
    | around => cases h
    | inside names =>
      dsimp only at h
      split at h
      · rename_i hfolder
        obtain rfl := Except.ok.inj h
        exact .inr hfolder
      · split at h <;> cases h

theorem isThere_foldlM {steps : List String} {start stop : Place}
    (h : steps.foldlM folder.enter start = .ok stop) (hstart : start.IsThere folder) :
    stop.IsThere folder := by
  induction steps generalizing start with
  | nil =>
    obtain rfl := Except.ok.inj h
    exact hstart
  | cons step steps ih =>
    rw [List.foldlM_cons] at h
    obtain ⟨next, hnext, h⟩ := bind_eq_ok_iff.1 h
    exact ih h (isThere_enter hnext hstart)

/-- A path leads to a place that is there, and a name in it. -/
theorem locate_entry {place : Place} {name : String} {slash : Bool}
    (h : folder.locate path = .ok (.entry place name slash)) :
    place.IsThere folder ∧ '/' ∉ name.toList := by
  unfold locate at h
  dsimp only at h
  by_cases hlong : maxPath < path.utf8ByteSize
  · rw [if_pos hlong] at h
    cases h
  · by_cases hempty : path = ""
    · rw [if_neg hlong, if_pos hempty] at h
      cases h
    · rw [if_neg hlong, if_neg hempty] at h
      obtain ⟨place', hplace, h⟩ := bind_eq_ok_iff.1 h
      have hthere : place'.IsThere folder := by
        refine isThere_foldlM hplace ?_
        split
        · trivial
        · exact .inl rfl
      split at h
      · cases h
      · cases h
      · cases h
      · rename_i last hlast
        obtain ⟨rfl, rfl, -⟩ := Target.entry.inj (Except.ok.inj h)
        refine ⟨hthere, ?_⟩
        have hmem := List.mem_of_mem_filter (List.mem_of_getLast? hlast)
        obtain ⟨piece, hpiece, rfl⟩ := List.mem_map.1 hmem
        rw [String.toList_ofList]
        exact Text.sep_not_mem_pieces '/' _ piece hpiece

/-! ## Files beside each other -/

theorem prefix_of_prefix_append {α : Type} {c : α} {u v w : List α} (hw : c ∉ w)
    (h : u ++ [c] <+: v ++ w) : u ++ [c] <+: v := by
  rcases Nat.lt_or_ge v.length (u ++ [c]).length with hlong | hle
  · obtain ⟨x, hx⟩ := List.prefix_of_prefix_length_le (List.prefix_append v w) h hlong.le
    rw [← hx, List.prefix_append_right_inj] at h
    refine absurd (h.subset ?_) hw
    -- The part of the prefix beyond `v` ends with `c`.
    cases x using List.reverseRecOn with
    | nil =>
      rw [List.append_nil] at hx
      exact absurd (congrArg List.length hx) hlong.ne
    | append_singleton x d =>
      rw [← List.append_assoc] at hx
      obtain ⟨-, heq⟩ := List.append_inj' hx rfl
      rw [List.singleton_inj.1 heq]
      simp
  · exact List.prefix_of_prefix_length_le h (List.prefix_append v w) hle

/-- A file is stored in no folder that is not there. -/
theorem not_startsWith_join {names : List String} {name : String} {slash : Bool}
    (h : folder.locate path = .ok (.entry (.inside names) name slash))
    (hkey : folder.hasFolder key = false) : ¬(join names name).startsWith (key ++ "/") := by
  obtain ⟨hthere, hname⟩ := locate_entry h
  rw [String.startsWith_string_iff, String.toList_append]
  intro hbegin
  replace hbegin : key.toList ++ ['/'] <+: (join names name).toList := hbegin
  by_cases hnames : names = []
  · subst hnames
    rw [join, List.nil_append, String.intercalate_singleton] at hbegin
    exact hname (hbegin.subset (by simp))
  · rw [toList_join_of_ne_nil hnames] at hbegin
    obtain ⟨k, hk, hfolder⟩ := hasFolder_iff.1 (hthere.resolve_left hnames)
    have hkey' : folder.hasFolder key :=
      hasFolder_iff.2 ⟨k, hk, (prefix_of_prefix_append hname hbegin).trans hfolder⟩
    exact Bool.false_ne_true (hkey.symm.trans hkey')

/-- Anything can be stored at a path. -/
def Writable (folder : Folder) (path : String) : Prop :=
  ∀ bytes, ∃ folder', folder.store path bytes = .ok folder'

/-- What is stored at a path is kept in the folder, under this name. -/
def Keeps (folder : Folder) (path key : String) : Prop :=
  path ≠ nullDevice ∧ ∃ names name, folder.locate path = .ok (.entry (.inside names) name false) ∧
    key = join names name

/-- Two paths do not lead to the same file. -/
def Apart (folder : Folder) (p q : String) : Prop := ∀ key, folder.Keeps p key → ¬folder.Keeps q key

/-- A path under which a file is found, unless nothing is kept of what is stored there: it is the
null device, or outside of the folder. -/
def Holds (folder : Folder) (path : String) (bytes : List UInt8) : Prop :=
  path = nullDevice ∨ (∃ name, folder.locate path = .ok (.entry .around name false)) ∨
    folder.load path = .ok bytes

/-- More files are in the way of none, unless it is to be stored where a folder is then. -/
theorem exists_store_withFile {more : List UInt8} (h : folder.store path bytes = .ok folder')
    (hkey : ∀ k, folder.Keeps path k → ¬key.startsWith (k ++ "/")) (bytes' : List UInt8) :
    ∃ stored, (folder.withFile key more).store path bytes' = .ok stored := by
  unfold store at h ⊢
  by_cases hnull : path = nullDevice
  · rw [if_pos hnull]
    exact ⟨_, rfl⟩
  · rw [if_neg hnull] at h ⊢
    obtain ⟨target, htarget, h⟩ := bind_eq_ok_iff.1 h
    rw [locate_withFile htarget]
    dsimp only [bind, Except.bind]
    cases target with
    | folder => cases h
    | entry place name slash =>
      dsimp only at h ⊢
      by_cases hlong : maxName < name.utf8ByteSize
      · rw [if_pos hlong] at h
        cases slash <;> cases h
      · rw [if_neg hlong] at h ⊢
        cases slash with
        | true => cases h
        | false =>
          cases place with
          | around => exact ⟨_, rfl⟩
          | inside names =>
            dsimp only at h ⊢
            by_cases hfolder : folder.hasFolder (join names name)
            · rw [if_pos hfolder] at h
              cases h
            · have hmore : ¬(folder.withFile key more).hasFolder (join names name) := fun hmore =>
                (hasFolder_withFile_iff.1 hmore).elim
                  (hkey _ ⟨hnull, names, name, htarget, rfl⟩) hfolder
              rw [if_neg hmore]
              exact ⟨_, rfl⟩

theorem Keeps.eq {k : String} (h : folder.Keeps path key) (h' : folder.Keeps path k) : k = key := by
  obtain ⟨-, names, name, hlocate, rfl⟩ := h
  obtain ⟨-, names', name', hlocate', rfl⟩ := h'
  obtain ⟨⟨⟩, rfl, -⟩ := Target.entry.inj (Except.ok.inj (hlocate.symm.trans hlocate'))
  rfl

theorem Keeps.withFile {more : List UInt8} {k : String} (h : folder.Keeps path k) :
    (folder.withFile key more).Keeps path k := by
  obtain ⟨hnull, names, name, hlocate, rfl⟩ := h
  exact ⟨hnull, names, name, locate_withFile hlocate, rfl⟩

/-- What can be stored, but is not kept, is not kept in a folder with more files either. -/
theorem keeps_of_withFile {more : List UInt8} {k : String}
    (h : folder.store path bytes = .ok folder') (hk : (folder.withFile key more).Keeps path k) :
    folder.Keeps path k := by
  rcases store_cases h with ⟨hnull | ⟨name, haround⟩, -⟩ | ⟨names, name, hlocate, hnull, -⟩
  · exact absurd hnull hk.1
  · obtain ⟨-, names', name', hlocate', -⟩ := hk
    rw [locate_withFile haround] at hlocate'
    cases hlocate'
  · have hkeeps : folder.Keeps path (join names name) := ⟨hnull, names, name, hlocate, rfl⟩
    rwa [hkeeps.withFile.eq hk]

theorem hasFolder_of_keeps (h : folder.store path bytes = .ok folder')
    (hkey : folder.Keeps path key) : folder.hasFolder key = false := by
  rcases store_cases h with
    ⟨hnull | ⟨name, haround⟩, -⟩ | ⟨names, name, hlocate, hnull, -, hfolder, -⟩
  · exact absurd hnull hkey.1
  · obtain ⟨-, names, name', hlocate, -⟩ := hkey
    rw [haround] at hlocate
    cases hlocate
  · have hkeeps : folder.Keeps path (join names name) := ⟨hnull, names, name, hlocate, rfl⟩
    rwa [hkeeps.eq hkey]

variable {p q : String}

/-- What can be stored can still be stored when something else has been stored. -/
theorem Writable.after_store (hq : folder.Writable q) (hp : folder.store p bytes = .ok folder') :
    folder'.Writable q := by
  intro bytes'
  obtain ⟨stored, hstored⟩ := hq bytes'
  rcases store_cases hp with ⟨-, rfl⟩ | ⟨names, name, hlocate, -, -, -, rfl⟩
  · exact ⟨stored, hstored⟩
  · exact exists_store_withFile hstored
      (fun k hk => not_startsWith_join hlocate (hasFolder_of_keeps hstored hk)) bytes'

/-- What is stored stays, unless it is stored over. -/
theorem holds_of_store {stored : Folder} {more : List UInt8}
    (hp : folder.store p bytes = .ok folder') (hq : folder.Writable q) (hapart : folder.Apart p q)
    (h : folder'.store q more = .ok stored) : stored.Holds p bytes := by
  rcases store_cases h with ⟨-, rfl⟩ | ⟨names₂, name₂, hlocate₂, hnull₂, -, -, rfl⟩
  · exact load_of_store hp
  · rcases store_cases hp with
      ⟨hnull | ⟨name, haround⟩, rfl⟩ | ⟨names, name, hlocate, hnull, hlong, hfolder, rfl⟩
    · exact .inl hnull
    · exact .inr (.inl ⟨name, locate_withFile haround⟩)
    · obtain ⟨_, hstored⟩ := hq more
      have hkeeps : folder.Keeps q (join names₂ name₂) :=
        keeps_of_withFile hstored ⟨hnull₂, names₂, name₂, hlocate₂, rfl⟩
      have hne : join names name ≠ join names₂ name₂ := fun heq =>
        hapart _ ⟨hnull, names, name, hlocate, rfl⟩ (heq ▸ hkeeps)
      have hself : (folder.withFile (join names name) bytes).hasFolder (join names name) = false :=
        hasFolder_withFile_self.trans hfolder
      refine .inr (.inr
        (load_of_file? hnull (locate_withFile (locate_withFile hlocate)) hlong ?_ ?_))
      · rw [Bool.eq_false_iff, Ne, hasFolder_withFile_iff, not_or]
        exact ⟨not_startsWith_join hlocate₂ hself, Bool.eq_false_iff.1 hself⟩
      · rw [file?, withFile, SortedMap.get?_insert, if_neg hne]
        exact file?_withFile ..

/-- The folder with a text stored in it, if there is one and a path is given for it. -/
def StoresAt (folder : Folder) : Option String → Option String → Folder → Prop
  | some path, some text, folder' => folder.store path (Text.writeUtf8 text.toList) = .ok folder'
  | _, _, folder' => folder' = folder

section

variable {stored : Folder} {path? next? text text' : Option String}

theorem storesAt_none_right : folder.StoresAt path? none folder := by
  cases path? <;> rfl

theorem StoresAt.eq_or_store (h : folder.StoresAt path? text folder') :
    folder' = folder ∨ ∃ path t, path? = some path ∧ text = some t ∧
      folder.store path (Text.writeUtf8 t.toList) = .ok folder' := by
  cases path? with
  | none => exact .inl h
  | some path =>
    cases text with
    | none => exact .inl h
    | some t => exact .inr ⟨path, t, rfl, rfl, h⟩

theorem StoresAt.writable (h : folder.StoresAt path? text folder') (hq : folder.Writable q) :
    folder'.Writable q := by
  rcases h.eq_or_store with rfl | ⟨path, t, -, -, hstore⟩
  · exact hq
  · exact hq.after_store hstore

theorem StoresAt.holds (h : folder.StoresAt path? text folder') :
    ∀ path ∈ path?, ∀ t ∈ text, folder'.Holds path (Text.writeUtf8 t.toList) := by
  rintro path rfl t rfl
  exact load_of_store h

theorem StoresAt.holds_after (h : folder.StoresAt path? text folder')
    (h' : folder'.StoresAt next? text' stored) (hwritable : ∀ q ∈ next?, folder.Writable q)
    (hapart : ∀ p ∈ path?, ∀ q ∈ next?, folder.Apart p q) :
    ∀ path ∈ path?, ∀ t ∈ text, stored.Holds path (Text.writeUtf8 t.toList) := by
  rcases h'.eq_or_store with rfl | ⟨q, u, rfl, rfl, hstore⟩
  · exact h.holds
  · rintro p rfl t rfl
    exact holds_of_store h (hwritable q rfl) (hapart p rfl q rfl) hstore

end

end Folder

end Wordbook
