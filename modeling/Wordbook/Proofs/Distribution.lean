import Wordbook.Proofs.Provider

/-!
# The distribution of dialects

A dialect cell is understood as a whole or not at all. Each variant has the
dialects that its own group names, or the default dialects where it names none.

* `Dialects.Accepts`: the cells that are understood;
* `Dialects.StandsFor`: the dialects of a group;
* `Dialects.assign_or_keep`: what becomes of the variants of a cell.
-/

namespace Wordbook

open Text

/-- One of the texts between the commas of a group is a name, but for blanks around it. -/
def Cell.HasName (group name : List Char) : Prop :=
  name ≠ [] ∧ ∃ piece ∈ pieces ',' group, trim piece = name

theorem Cell.mem_names_iff {group name : List Char} : name ∈ names group ↔ HasName group name := by
  rw [names, List.mem_filter, List.mem_map, HasName, and_comm]
  simp

namespace Dialects

section

variable (ds : Dialects) (group : List Char)

/-- All names of a group are known. -/
def Knows : Prop := ∀ name, Cell.HasName group name → (ds.lookup.get? (String.ofList name)).isSome

/-- Some dialects are those that a group names, and no others; the default dialects are those of a
group without names. -/
structure StandsFor (ids : SortedSet Int64) : Prop where
  default : (∀ name, ¬Cell.HasName group name) → ids = ds.defaults
  named : (∃ name, Cell.HasName group name) → ∀ id, id ∈ ids ↔
    ∃ name, Cell.HasName group name ∧ ds.lookup.get? (String.ofList name) = some id

end

variable {ds : Dialects} {group : List Char} {ids : SortedSet Int64}

/-- Neither the order of the names nor their repetition matters. -/
theorem StandsFor.unique {group' : List Char} {ids' : SortedSet Int64}
    (h : ds.StandsFor group ids) (h' : ds.StandsFor group' ids')
    (hnames : ∀ name, Cell.HasName group name ↔ Cell.HasName group' name) : ids = ids' := by
  by_cases hname : ∃ name, Cell.HasName group name
  · have hname' : ∃ name, Cell.HasName group' name := by simpa only [← hnames] using hname
    refine SortedSet.eq_of_mem_iff fun id => ?_
    rw [h.named hname, h'.named hname']
    simp only [hnames]
  · have hnone := not_exists.1 hname
    rw [h.default hnone, h'.default fun name => (hnames name).not.1 (hnone name)]

theorem not_hasName_nil (name : List Char) : ¬Cell.HasName [] name := by
  rintro ⟨hne, piece, hpiece, rfl⟩
  rw [pieces_nil, List.mem_singleton] at hpiece
  rw [hpiece] at hne
  exact hne rfl

/-- Groups without names stand for the default dialects. -/
theorem forall₂_replicate (ds : Dialects) (n : Nat) :
    List.Forall₂ ds.StandsFor (List.replicate n []) (List.replicate n ds.defaults) := by
  induction n with
  | zero => exact .nil
  | succ n ih =>
    exact .cons ⟨fun _ => rfl, fun ⟨name, hname⟩ => absurd hname (not_hasName_nil name)⟩ ih

theorem named_eq_ok_iff : named ds.lookup group = .ok ids ↔
    ∃ found, List.Forall₂ (fun name id => ds.lookup.get? (String.ofList name) = some id)
      (Cell.names group) found ∧ SortedSet.ofList found = ids := by
  rw [named, bind_eq_ok_iff]
  refine exists_congr fun found => and_congr ⟨fun h => (mapM_eq_ok_iff.1 h).imp ?_,
    fun h => mapM_eq_ok_iff.2 (h.imp ?_)⟩ (Except.ok.injEq ..).to_iff
  · intro name id hname
    split at hname
    · rename_i hid
      rw [hid, Except.ok.inj hname]
    · nomatch hname
  · intro name id hname
    rw [hname]

/-- A group is understood if all of its names are known. -/
theorem group_eq_ok (h : ds.group group = .ok ids) : ds.Knows group ∧ ds.StandsFor group ids := by
  obtain ⟨named, hnamed, rfl⟩ := map_eq_ok_iff.1 h
  obtain ⟨found, hfound, rfl⟩ := named_eq_ok_iff.1 hnamed
  have hid (name) (hname : Cell.HasName group name) :=
    exists_of_mem_forall₂ hfound (Cell.mem_names_iff.2 hname)
  refine ⟨fun name hname => ?_, fun hnone => ?_, fun ⟨name, hname⟩ id => ?_⟩
  · obtain ⟨id, -, hid⟩ := hid name hname
    rw [hid]
    rfl
  · have hnames : Cell.names group = [] := List.eq_nil_iff_forall_not_mem.2 fun name hname =>
      hnone name (Cell.mem_names_iff.1 hname)
    rw [hnames] at hfound
    cases hfound
    rfl
  · have hfilled : (SortedSet.ofList found).isEmpty = false := by
      obtain ⟨id, hmem, -⟩ := hid name hname
      exact List.isEmpty_eq_false_iff.2 (List.ne_nil_of_mem (SortedSet.mem_ofList.2 hmem))
    rw [hfilled, if_neg Bool.false_ne_true, SortedSet.mem_ofList]
    constructor
    · intro hmem
      obtain ⟨name, hname, hid⟩ := exists_of_mem_forall₂ hfound.flip hmem
      exact ⟨name, Cell.mem_names_iff.1 hname, hid⟩
    · rintro ⟨name, hname, hsome⟩
      obtain ⟨id', hmem, hid⟩ := hid name hname
      rwa [← Option.some.inj (hid.symm.trans hsome)]

theorem exists_group_eq_ok (h : ds.Knows group) : ∃ ids, ds.group group = .ok ids := by
  refine ⟨_, map_eq_ok_iff.2 ⟨_, named_eq_ok_iff.2 ⟨(Cell.names group).map fun name =>
    (ds.lookup.get? (String.ofList name)).getD 0, ?_, rfl⟩, rfl⟩⟩
  refine List.forall₂_map_right_iff.2 (List.forall₂_same.2 fun name hname => ?_)
  obtain ⟨id, hid⟩ := Option.isSome_iff_exists.1 (h name (Cell.mem_names_iff.1 hname))
  rw [hid]
  rfl

/-! ## Cells -/

/-- The cell of a row is understood for some number of variants. -/
inductive Accepts (ds : Dialects) (row : Row) (column : Option Nat) (variants : Nat) : Prop where
  | blank : (∀ c ∈ column, isBlankText (row.cell c).toList) → Accepts ds row column variants
  | single : variants = 1 → '~' ∉ cell row column → ds.Knows (cell row column) →
    Accepts ds row column variants
  | several : 1 < variants → (pieces '~' (cell row column)).length = variants →
    (∀ group ∈ pieces '~' (cell row column), ds.Knows group) → Accepts ds row column variants

/-- The groups of a cell, one for each variant. There is no name in those of a blank cell. -/
def groups (cell : List Char) (variants : Nat) : List (List Char) :=
  if isBlankText cell then List.replicate variants []
  else if variants = 1 then [cell]
  else pieces '~' cell

theorem isBlankText_cell {row : Row} {column : Option Nat} :
    isBlankText (cell row column) ↔ ∀ c ∈ column, isBlankText (row.cell c).toList := by
  cases column with
  | none => simp [cell, isBlankText]
  | some c => simp [cell, isBlankText_trim]

variable {row : Row} {column : Option Nat} {n : Nat} {sets : List (SortedSet Int64)}

/-- If a cell is understood, each variant has the dialects of its own group. -/
theorem resolve_eq_ok (h : ds.resolve (cell row column) n = .ok sets) :
    ds.Accepts row column n ∧ List.Forall₂ ds.StandsFor (groups (cell row column) n) sets := by
  unfold resolve at h
  unfold groups
  split at h
  · rename_i hblank
    rw [← Except.ok.inj h, if_pos hblank]
    exact ⟨.blank (isBlankText_cell.1 hblank), ds.forall₂_replicate n⟩
  · rename_i hblank
    rw [if_neg hblank]
    split at h
    · rename_i hone
      rw [if_pos hone]
      split at h
      · nomatch h
      · rename_i htilde
        obtain ⟨ids, hids, rfl⟩ := map_eq_ok_iff.1 h
        obtain ⟨hknows, hstands⟩ := group_eq_ok hids
        exact ⟨.single hone (by simpa using htilde) hknows, .cons hstands .nil⟩
    · rename_i hone
      dsimp only [Cell.dialectGroups] at h
      rw [if_neg hone]
      split at h
      · rename_i hlength
        have hpos := List.length_pos_iff.2 (pieces_ne_nil '~' (cell row column))
        have hgroups := (mapM_eq_ok_iff.1 h).imp fun _ _ => group_eq_ok
        refine ⟨.several (by omega) hlength fun group hgroup => ?_, hgroups.imp fun _ _ h => h.2⟩
        obtain ⟨_, -, hknows, -⟩ := exists_of_mem_forall₂ hgroups hgroup
        exact hknows
      · nomatch h

theorem exists_resolve_eq_ok (h : ds.Accepts row column n) :
    ∃ sets, ds.resolve (cell row column) n = .ok sets := by
  by_cases hblank : isBlankText (cell row column)
  · exact ⟨_, if_pos hblank⟩
  · rw [resolve, if_neg hblank]
    cases h with
    | blank h => exact absurd (isBlankText_cell.2 h) hblank
    | single hone htilde hknows =>
      obtain ⟨ids, hids⟩ := exists_group_eq_ok hknows
      rw [if_pos hone, if_neg (by simpa using htilde), hids]
      exact ⟨_, rfl⟩
    | several hseveral hlength hknows =>
      rw [if_neg (Nat.ne_of_gt hseveral)]
      dsimp only [Cell.dialectGroups]
      rw [if_pos hlength]
      exact exists_mapM_eq_ok fun group hgroup => exists_group_eq_ok (hknows group hgroup)

/-- The variants in their place have the dialects of their cell, or are as they were. -/
theorem assign_eq (ds : Dialects) (variants : List Variant) (row : Row) (column : Option Nat) :
    (∃ sets, ds.resolve (cell row column) variants.length = .ok sets ∧
      ds.assign row column variants = (.ok (), variants.zipWith
        (fun variant ids => { variant with dialectIds := some ids }) sets)) ∨
    ∃ e, ds.resolve (cell row column) variants.length = .error e ∧
      ds.assign row column variants = (.error e, variants) := by
  cases hresolve : ds.resolve (cell row column) variants.length with
  | ok sets =>
    refine .inl ⟨sets, rfl, ?_⟩
    show (MonadLiftT.monadLift (ds.resolve (cell row column) variants.length) >>= _ :
      ExceptT CellError (StateM (List Variant)) Unit) variants = _
    rw [hresolve]
    rfl
  | error e =>
    refine .inr ⟨e, rfl, ?_⟩
    show (MonadLiftT.monadLift (ds.resolve (cell row column) variants.length) >>= _ :
      ExceptT CellError (StateM (List Variant)) Unit) variants = _
    rw [hresolve]
    rfl

theorem getElem?_zipWith_of_resolve {variants : List Variant}
    (h : ds.resolve (cell row column) variants.length = .ok sets) {k : Nat} {variant : Variant}
    (hk : variants[k]? = some variant) :
    ∃ group ids, (groups (cell row column) variants.length)[k]? = some group ∧
      ds.StandsFor group ids ∧
      (variants.zipWith (fun variant ids => { variant with dialectIds := some ids }) sets)[k]? =
        some { variant with dialectIds := some ids } := by
  have hforall := (resolve_eq_ok h).2
  obtain ⟨hlt, -⟩ := List.getElem?_eq_some_iff.1 hk
  have hsets : k < sets.length := by rwa [length_resolve h]
  have hgroups : k < (groups (cell row column) variants.length).length := by
    rwa [hforall.length_eq]
  refine ⟨_, sets[k], List.getElem?_eq_getElem hgroups, hforall.get hgroups hsets, ?_⟩
  rw [List.getElem?_zipWith, hk, List.getElem?_eq_getElem hsets]

/-- Either the whole cell is understood and every variant has the dialects of its own group, or
all variants are as they were. -/
theorem assign_or_keep (ds : Dialects) (variants : List Variant) (row : Row)
    (column : Option Nat) :
    ∃ result after, ds.assign row column variants = (result, after) ∧
      ds.distribute variants row column = result.map (fun _ => after) ∧
      (result = .ok () ↔ ds.Accepts row column variants.length) ∧
      (result = .ok () → after.length = variants.length ∧
        ∀ (k : Nat) (variant : Variant), variants[k]? = some variant → ∃ group ids,
          (groups (cell row column) variants.length)[k]? = some group ∧
          ds.StandsFor group ids ∧ after[k]? = some { variant with dialectIds := some ids }) ∧
      (result ≠ .ok () → after = variants) ∧
      ∀ group group' ids ids', ds.StandsFor group ids → ds.StandsFor group' ids' →
        (∀ name, Cell.HasName group name ↔ Cell.HasName group' name) → ids = ids' := by
  rcases ds.assign_eq variants row column with ⟨sets, hresolve, hassign⟩ | ⟨e, hresolve, hassign⟩
  · refine ⟨_, _, hassign, ?_, ?_, fun _ => ⟨?_, fun k variant hk => ?_⟩, fun h => absurd rfl h,
      fun _ _ _ _ => StandsFor.unique⟩
    · rw [distribute, hresolve]
      rfl
    · exact ⟨fun _ => (resolve_eq_ok hresolve).1, fun _ => rfl⟩
    · rw [List.length_zipWith, length_resolve hresolve, Nat.min_self]
    · exact getElem?_zipWith_of_resolve hresolve hk
  · have hne : (.error e : Except CellError Unit) ≠ .ok () := by rintro ⟨⟩
    refine ⟨_, _, hassign, ?_, ⟨fun h => absurd h hne, fun haccepts => ?_⟩,
      fun h => absurd h hne, fun _ => rfl, fun _ _ _ _ => StandsFor.unique⟩
    · rw [distribute, hresolve]
      rfl
    · obtain ⟨sets, hsets⟩ := exists_resolve_eq_ok haccepts
      rw [hresolve] at hsets
      cases hsets

end Dialects

end Wordbook
