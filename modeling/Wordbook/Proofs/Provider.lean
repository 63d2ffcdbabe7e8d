import Wordbook.Import.RowResult
import Wordbook.Proofs.Grammar

/-!
# What a provider makes of a row

A creation comes first, then the distribution of the dialects over its variants.
Either may fail, and which of them does is told by the column of the failure.

* `Draft.sound_of_forall₂`: dialects leave everything else as it is;
* `Provider.Makes`, `Provider.Refuses`: the two outcomes;
* `Provider.lexemes_eq_ok_iff`, `Provider.lexemes_eq_error_iff`: there is no third.
-/

namespace Wordbook

open Creation

namespace RowBuild

variable {α β : Type}

theorem bind_apply (c : RowBuild α) (f : α → RowBuild β) (ledger : Ledger) :
    (c >>= f) ledger = match c ledger with
      | .error fault => .error fault
      | .ok (.ok a, ledger) => f a ledger
      | .ok (.error failure, ledger) => .ok (.error failure, ledger) := by
  show (c ledger >>= fun (r, ledger) => ExceptT.bindCont f r ledger) = _
  rcases c ledger with _ | ⟨_ | a, ledger⟩ <;> rfl

/-- Readings of cells, one after another, leave the ledger as it is. -/
theorem mapM_ofCell (context : String) (column : Nat) (f : α → Except CellError β) (as : List α)
    (ledger : Ledger) :
    as.mapM (fun a => ofCell context column (f a)) ledger =
      .ok ((as.mapM f).mapError (⟨context, column, ·⟩), ledger) := by
  induction as with
  | nil => rfl
  | cons a as ih =>
    rw [List.mapM_cons, List.mapM_cons, bind_apply, ofCell]
    cases f a with
    | error e => rfl
    | ok b =>
      dsimp only [Except.mapError]
      rw [bind_apply, ih]
      show _ = Except.ok (((as.mapM f) >>= fun bs => .ok (b :: bs)).mapError _, ledger)
      cases as.mapM f <;> rfl

end RowBuild

theorem forall_mem_iff_of_forall₂ {α β : Type} {R : α → β → Prop} {P : α → Prop} {Q : β → Prop}
    {as : List α} {bs : List β} (h : List.Forall₂ R as bs) (hPQ : ∀ a b, R a b → (P a ↔ Q b)) :
    (∀ a ∈ as, P a) ↔ ∀ b ∈ bs, Q b := by
  induction h with
  | nil => simp
  | cons hab _ ih => rw [List.forall_mem_cons, List.forall_mem_cons, hPQ _ _ hab, ih]

namespace Dialects

theorem length_resolve {ds : Dialects} {cell : List Char} {n : Nat} {sets : List (SortedSet Int64)}
    (h : ds.resolve cell n = .ok sets) : sets.length = n := by
  unfold resolve at h
  split at h
  · rw [← Except.ok.inj h, List.length_replicate]
  · split at h
    · rename_i hone
      split at h
      · nomatch h
      · obtain ⟨ids, -, rfl⟩ := map_eq_ok_iff.1 h
        rw [hone, List.length_singleton]
    · dsimp only at h
      split at h
      · rw [← (mapM_eq_ok_iff.1 h).length_eq]
        assumption
      · nomatch h

/-- Without a dialect column there is nothing to refuse. -/
theorem distribute_none (ds : Dialects) (variants : List Variant) (row : Row) (e : CellError) :
    ds.distribute variants row none ≠ .error e := by
  rw [distribute, cell, resolve, if_pos (show Text.isBlankText [] = true from rfl)]
  nofun

end Dialects

namespace Draft

/-- Some variants of a lexeme with the dialects that their row tells. -/
def distribute (dialects : Dialects) (row : Row) (column : Option Nat) (ds : List Draft) :
    Except CellError (List Draft) :=
  (dialects.resolve (Dialects.cell row column) ds.length).map fun sets =>
    ds.zipWith (fun d ids => { d with dialectIds := some ids }) sets

theorem length_distribute {dialects : Dialects} {row : Row} {column : Option Nat}
    {ds es : List Draft} (h : distribute dialects row column ds = .ok es) :
    es.length = ds.length := by
  obtain ⟨sets, hsets, rfl⟩ := map_eq_ok_iff.1 h
  rw [List.length_zipWith, Dialects.length_resolve hsets, Nat.min_self]

theorem distribute_lexeme (dialects : Dialects) (row : Row) (column : Option Nat)
    (orthographyId first : Int64) (ds : List Draft) :
    dialects.distribute (lexeme orthographyId first ds) row column =
      (distribute dialects row column ds).map (lexeme orthographyId first) := by
  rw [Dialects.distribute, distribute, length_lexeme]
  cases dialects.resolve (Dialects.cell row column) ds.length with
  | error e => rfl
  | ok sets =>
    refine congrArg Except.ok (List.ext_getElem? fun k => ?_)
    simp only [lexeme, List.getElem?_zipWith, List.getElem?_mapIdx]
    cases ds[k]? <;> cases sets[k]? <;> rfl

theorem mapM_distribute_lexemes (dialects : Dialects) (row : Row) (column : Option Nat)
    (orthographyId first : Int64) (gs : List (List Draft)) :
    (lexemes orthographyId first gs).mapM (fun vs => dialects.distribute vs row column) =
      (gs.mapM (distribute dialects row column)).map (lexemes orthographyId first) := by
  induction gs generalizing first with
  | nil => rfl
  | cons ds gs ih =>
    rw [lexemes, List.mapM_cons, List.mapM_cons, distribute_lexeme, ih]
    cases hes : distribute dialects row column ds with
    | error e => rfl
    | ok es =>
      cases gs.mapM (distribute dialects row column) with
      | error e => rfl
      | ok fs =>
        show Except.ok _ = Except.ok (lexemes ..)
        rw [lexemes, length_distribute hes]

theorem distribute_congr (dialects : Dialects) (column : Option Nat) {row row' : Row}
    (h : row'.cells = row.cells) :
    distribute dialects row' column = distribute dialects row column := by
  have hcell : Dialects.cell row' column = Dialects.cell row column := by
    cases column with
    | none => rfl
    | some column => rw [Dialects.cell, Dialects.cell, Row.cell, h]; rfl
  funext ds
  rw [distribute, distribute, hcell]

/-- A variant with dialects, and the same one without. -/
abbrev Dialected (d e : Draft) : Prop := ∃ ids, e = { d with dialectIds := some ids }

/-- Distribution adds dialects to the variants and changes nothing else. -/
theorem forall₂_distribute {dialects : Dialects} {row : Row} {column : Option Nat}
    {ds es : List Draft} (h : distribute dialects row column ds = .ok es) :
    List.Forall₂ Dialected ds es := by
  refine List.forall₂_iff_get.2 ⟨(length_distribute h).symm, fun k hk _ => ?_⟩
  obtain ⟨sets, -, rfl⟩ := map_eq_ok_iff.1 h
  simp [Dialected]

theorem forall₂_mapM_distribute {dialects : Dialects} {row : Row} {column : Option Nat}
    {gs hs : List (List Draft)} (h : gs.mapM (distribute dialects row column) = .ok hs) :
    List.Forall₂ (List.Forall₂ Dialected) gs hs :=
  (mapM_eq_ok_iff.1 h).imp fun _ _ => forall₂_distribute

/-- What holds of the variants before holds of them with their dialects. -/
theorem sound_of_forall₂ {gs hs : List (List Draft)} {Q : Prop}
    (h : List.Forall₂ (List.Forall₂ Dialected) gs hs)
    (hgs : (∀ ds ∈ gs, ds ≠ []) ∧ (∀ d ∈ gs.flatten, d.IsSound) ∧
      ((∀ d ∈ gs.flatten, d.IsFilled) ↔ Q)) :
    (∀ ds ∈ hs, ds ≠ []) ∧ (∀ d ∈ hs.flatten, d.IsSound ∧ d.dialectIds.isSome) ∧
      ((∀ d ∈ hs.flatten, d.IsFilled) ↔ Q) := by
  obtain ⟨hne, hsound, hfilled⟩ := hgs
  have hflat := List.rel_flatten h
  refine ⟨(forall_mem_iff_of_forall₂ h fun ds es h => ?_).1 hne,
    (forall_mem_iff_of_forall₂ hflat ?_).1 hsound, ?_⟩
  · rw [← List.length_pos_iff, h.length_eq, List.length_pos_iff]
  · rintro d _ ⟨ids, rfl⟩
    exact ⟨fun h => ⟨⟨h.1, h.2, h.3⟩, rfl⟩, fun h => ⟨h.1.1, h.1.2, h.1.3⟩⟩
  · rw [← hfilled]
    refine (forall_mem_iff_of_forall₂ hflat ?_).symm
    rintro d _ ⟨ids, rfl⟩
    exact Iff.rfl

end Draft

/-! ## Success and failure -/

namespace Provider

variable (p : Provider) (bound : BoundCreator) (tag : String) (row : Row)

/-- The creation of the lexemes of a row and the distribution of their dialects succeed. -/
def Makes (ledger : Ledger) (lexemes : List (List Variant)) (after : Ledger) : Prop :=
  ∃ creation created,
    bound.creator.createLexemes (p.label tag) p.orthographyId row = .ok creation ∧
    creation ledger = (.ok created, after) ∧
    created.mapM (fun vs => p.dialects.distribute vs row bound.dialectColumn) = .ok lexemes

/-- One of the two fails, the creation on the text column or the distribution on the dialect
column. -/
inductive Refuses (ledger : Ledger) : RowFailure → Ledger → Prop where
  | creation {creation e after} :
    bound.creator.createLexemes (p.label tag) p.orthographyId row = .ok creation →
    creation ledger = (.error e, after) →
    Refuses ledger ⟨p.label tag, bound.creator.column, e⟩ after
  | dialects {creation created e after column} :
    bound.creator.createLexemes (p.label tag) p.orthographyId row = .ok creation →
    creation ledger = (.ok created, after) →
    bound.dialectColumn = some column →
    created.mapM (fun vs => p.dialects.distribute vs row bound.dialectColumn) = .error e →
    Refuses ledger ⟨p.label tag, column, e⟩ after

variable {p bound tag row}

theorem lexemes_apply {creation : Creation (List (List Variant))}
    (h : bound.creator.createLexemes (p.label tag) p.orthographyId row = .ok creation)
    (ledger : Ledger) :
    p.lexemes bound tag row ledger = match creation ledger with
      | (.error e, after) => .ok (.error ⟨p.label tag, bound.creator.column, e⟩, after)
      | (.ok created, after) =>
        .ok ((created.mapM fun vs => p.dialects.distribute vs row bound.dialectColumn).mapError
          (⟨p.label tag, bound.dialectColumn.getD bound.creator.column, ·⟩), after) := by
  rw [lexemes, RowBuild.bind_apply, h]
  show (RowBuild.ofCreation _ _ creation >>= _) ledger = _
  rw [RowBuild.bind_apply, RowBuild.ofCreation]
  rcases creation ledger with ⟨_ | created, after⟩
  · rfl
  · exact RowBuild.mapM_ofCell ..

/-- Nothing comes of a creator that is not initialised. -/
theorem exists_creation {ledger after : Ledger} {r : Except RowFailure (List (List Variant))}
    (h : p.lexemes bound tag row ledger = .ok (r, after)) :
    ∃ creation, bound.creator.createLexemes (p.label tag) p.orthographyId row = .ok creation := by
  cases hc : bound.creator.createLexemes (p.label tag) p.orthographyId row with
  | error fault =>
    rw [lexemes, RowBuild.bind_apply, hc] at h
    nomatch h
  | ok creation => exact ⟨creation, rfl⟩

theorem lexemes_eq_ok_iff {ledger after : Ledger} {lexemes : List (List Variant)} :
    p.lexemes bound tag row ledger = .ok (.ok lexemes, after) ↔
      p.Makes bound tag row ledger lexemes after := by
  constructor
  · intro h
    obtain ⟨creation, hc⟩ := exists_creation h
    rw [lexemes_apply hc] at h
    rcases hl : creation ledger with ⟨_ | created, l⟩ <;> rw [hl] at h
    · nomatch h
    · obtain ⟨hr, rfl⟩ := Prod.mk.inj (Except.ok.inj h)
      refine ⟨creation, created, hc, hl, ?_⟩
      cases hm : created.mapM fun vs => p.dialects.distribute vs row bound.dialectColumn with
      | error e => rw [hm] at hr; nomatch hr
      | ok lexemes => rw [hm] at hr; exact congrArg Except.ok (Except.ok.inj hr)
  · rintro ⟨creation, created, hc, hl, hm⟩
    rw [lexemes_apply hc, hl]
    dsimp only
    rw [hm]
    rfl

theorem lexemes_eq_error_iff {ledger after : Ledger} {failure : RowFailure} :
    p.lexemes bound tag row ledger = .ok (.error failure, after) ↔
      p.Refuses bound tag row ledger failure after := by
  constructor
  · intro h
    obtain ⟨creation, hc⟩ := exists_creation h
    rw [lexemes_apply hc] at h
    rcases hl : creation ledger with ⟨e | created, l⟩ <;> rw [hl] at h
    · obtain ⟨hr, rfl⟩ := Prod.mk.inj (Except.ok.inj h)
      obtain rfl := Except.error.inj hr
      exact .creation hc hl
    · obtain ⟨hr, rfl⟩ := Prod.mk.inj (Except.ok.inj h)
      cases hm : created.mapM fun vs => p.dialects.distribute vs row bound.dialectColumn with
      | ok lexemes => rw [hm] at hr; nomatch hr
      | error e =>
        rw [hm] at hr
        obtain rfl := Except.error.inj hr
        cases hcolumn : bound.dialectColumn with
        | none =>
          rw [hcolumn] at hm
          obtain ⟨vs, -, hvs⟩ := exists_error_of_mapM hm
          exact absurd hvs (Dialects.distribute_none _ _ _ _)
        | some column => exact .dialects hc hl hcolumn hm
  · rintro (⟨hc, hl⟩ | ⟨hc, hl, hcolumn, hm⟩)
    · rw [lexemes_apply hc, hl]
    · rw [lexemes_apply hc, hl]
      dsimp only
      rw [hm, hcolumn]
      rfl

end Provider

end Wordbook
