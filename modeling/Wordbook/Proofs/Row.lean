import Mathlib.Algebra.GroupWithZero.Nat
import Wordbook.Proofs.Provider

/-!
# Sketches of rows

What a row comes to hangs on its cells alone, but for its line and its ids. This
holds of each provider, and of all of them one after another.

* `RowBuild.Sketches`: what is made of a row is the run of a sketch;
* `rowBundles_sketches`: the bundles that all providers make of a row;
* `exists_buildRow_eq`: what a row comes to, wherever it stands.
-/

namespace Wordbook

open Creation

/-- A warning, but for the line that it is about. -/
structure Remark where
  context : String
  column : Nat
  message : String

def Remark.warning (line : Nat) (r : Remark) : Diagnostic :=
  ⟨.warning, r.message, r.context, line, some r.column⟩

namespace Ledger

/-- The ledger once some warnings about a line have been raised. -/
def remark (ledger : Ledger) (line : Nat) (remarks : List Remark) : Ledger :=
  { ledger with diagnostics := ledger.diagnostics ++ remarks.map (·.warning line) }

theorem remark_nil (ledger : Ledger) (line : Nat) : ledger.remark line [] = ledger := by
  simp [remark]

theorem warn_eq_remark (ledger : Ledger) (ctx : Context) (messages : List String) :
    ledger.warn ctx messages =
      ledger.remark ctx.line (messages.map fun message => ⟨ctx.label, ctx.column, message⟩) := by
  simp only [warn, remark, List.map_map]
  rfl

theorem draw_remark (ledger : Ledger) (line : Nat) (remarks more : List Remark) (m n : Nat) :
    (((ledger.remark line remarks).draw m).remark line more).draw n =
      (ledger.remark line (remarks ++ more)).draw (m + n) := by
  simp only [remark, draw, IdSequence.draw_draw, List.map_append, List.append_assoc]

end Ledger

/-- What becomes of a row, wherever it stands and whichever ids it draws. -/
structure RowSketch (α : Type) where
  remarks : List Remark
  /-- How many ids are drawn. -/
  drawn : Nat
  outcome : Except RowFailure α

namespace RowBuild

variable {α β γ δ : Type}

/-- What is made of the cells of a row is made after one sketch on every line. If it succeeds, it
draws as many ids as what is sketched has variants, and `P` holds of what is sketched. -/
def Sketches (row : Row) (make : Row → Int64 → α → β) (size : α → Nat) (P : α → Prop)
    (c : Row → RowBuild β) : Prop :=
  ∃ s : RowSketch α, (∀ a, s.outcome = .ok a → s.drawn = size a ∧ P a) ∧
    ∀ row', row'.cells = row.cells → ∀ ledger, c row' ledger =
      .ok (s.outcome.map (make row' ledger.nextId),
        (ledger.remark row'.line s.remarks).draw s.drawn)

variable {row : Row} {make : Row → Int64 → α → β} {size : α → Nat} {P : α → Prop}

theorem Sketches.pure {a : α} (hsize : size a = 0) (h : P a) (b : β)
    (hb : ∀ row first, make row first a = b) :
    Sketches row make size P fun _ => (Pure.pure b : RowBuild β) := by
  refine ⟨⟨[], 0, .ok a⟩, ?_, fun row' _ ledger => ?_⟩
  · rintro _ ⟨⟩
    exact ⟨hsize.symm, h⟩
  · rw [Ledger.remark_nil, Except.map, hb]
    rfl

/-- One after the other. The ids of the second one begin where those of the first one end. -/
theorem Sketches.seq {α₁ α₂ β₁ β₂ : Type} {make₁ : Row → Int64 → α₁ → β₁} {size₁ : α₁ → Nat}
    {make₂ : Row → Int64 → α₂ → β₂} {size₂ : α₂ → Nat} {P₁ : α₁ → Prop} {P₂ : α₂ → Prop}
    {c₁ : Row → RowBuild β₁} {c₂ : Row → RowBuild β₂}
    (h₁ : Sketches row make₁ size₁ P₁ c₁) (h₂ : Sketches row make₂ size₂ P₂ c₂)
    (joinSketch : α₁ → α₂ → α) (join : β₁ → β₂ → β)
    (hmake : ∀ a₁ a₂ row first, make row first (joinSketch a₁ a₂) =
      join (make₁ row first a₁) (make₂ row (first - Int64.ofNat (size₁ a₁)) a₂))
    (hsize : ∀ a₁ a₂, size (joinSketch a₁ a₂) = size₁ a₁ + size₂ a₂)
    (hP : ∀ a₁ a₂, P₁ a₁ → P₂ a₂ → P (joinSketch a₁ a₂)) :
    Sketches row make size P fun row => do return join (← c₁ row) (← c₂ row) := by
  obtain ⟨⟨remarks, drawn, outcome⟩, hs₁, hc₁⟩ := h₁
  cases outcome with
  | error e =>
    refine ⟨⟨remarks, drawn, .error e⟩, nofun, fun row' hrow' ledger => ?_⟩
    show (c₁ row' >>= _) ledger = _
    rw [bind_apply, hc₁ row' hrow']
    rfl
  | ok a₁ =>
    obtain ⟨rfl, hP₁⟩ := hs₁ a₁ rfl
    obtain ⟨⟨more, drawn, outcome⟩, hs₂, hc₂⟩ := h₂
    refine ⟨⟨remarks ++ more, size₁ a₁ + drawn, outcome.map (joinSketch a₁)⟩, ?_,
      fun row' hrow' ledger => ?_⟩
    · cases outcome with
      | error e => nofun
      | ok a₂ =>
        rintro _ ⟨⟩
        obtain ⟨rfl, hP₂⟩ := hs₂ a₂ rfl
        exact ⟨(hsize ..).symm, hP _ _ hP₁ hP₂⟩
    · show (c₁ row' >>= fun b₁ => c₂ row' >>= fun b₂ => Pure.pure (join b₁ b₂)) ledger = _
      rw [bind_apply, hc₁ row' hrow']
      show (c₂ row' >>= _) ((ledger.remark row'.line remarks).draw (size₁ a₁)) = _
      rw [bind_apply, hc₂ row' hrow', Ledger.draw_remark, Ledger.nextId_draw]
      cases outcome with
      | error e => rfl
      | ok a₂ =>
        dsimp only [Except.map]
        rw [hmake]
        rfl

theorem Sketches.map {make' : Row → Int64 → γ → δ} {size' : γ → Nat} {Q : γ → Prop}
    {c : Row → RowBuild β} (h : Sketches row make size P c) (f : α → γ) (g : Row → β → δ)
    (hmake : ∀ a row first, make' row first (f a) = g row (make row first a))
    (hsize : ∀ a, size' (f a) = size a) (hP : ∀ a, P a → Q (f a)) :
    Sketches row make' size' Q fun row => do return g row (← c row) := by
  obtain ⟨⟨remarks, drawn, outcome⟩, hs, hc⟩ := h
  refine ⟨⟨remarks, drawn, outcome.map f⟩, ?_, fun row' hrow' ledger => ?_⟩
  · cases outcome with
    | error e => nofun
    | ok a =>
      rintro _ ⟨⟩
      obtain ⟨rfl, ha⟩ := hs a rfl
      exact ⟨(hsize a).symm, hP a ha⟩
  · show (c row' >>= _) ledger = _
    rw [bind_apply, hc row' hrow']
    cases outcome with
    | error e => rfl
    | ok a =>
      dsimp only [Except.map]
      rw [hmake]
      rfl

end RowBuild

/-- What a bundle is made of, but for its line and its ids. -/
structure BundleDraft where
  provider : Provider
  drafts : List Draft

namespace BundleDraft

def bundle (tag : String) (row : Row) (first : Int64) (b : BundleDraft) : Bundle :=
  b.provider.bundle tag row (Draft.lexeme b.provider.orthographyId first b.drafts)

/-- Some bundles, with ids that count down from the first one. -/
def bundles (tag : String) (row : Row) : Int64 → List BundleDraft → List Bundle
  | _, [] => []
  | first, b :: bs =>
    b.bundle tag row first :: bundles tag row (first - Int64.ofNat b.drafts.length) bs

/-- The number of variants of some bundles. -/
def size (bs : List BundleDraft) : Nat := (bs.map (·.drafts.length)).sum

theorem size_cons (b : BundleDraft) (bs : List BundleDraft) :
    size (b :: bs) = b.drafts.length + size bs := rfl

theorem bundles_append (tag : String) (row : Row) (first : Int64) (as bs : List BundleDraft) :
    bundles tag row first (as ++ bs) =
      bundles tag row first as ++ bundles tag row (first - Int64.ofNat (size as)) bs := by
  induction as generalizing first with
  | nil => simp [bundles, size]
  | cons a as ih =>
    rw [List.cons_append, bundles, bundles, ih, List.cons_append, Int64.sub_sub, ← Int64.ofNat_add]
    rfl

theorem mem_bundles {tag : String} {row : Row} {first : Int64} {bs : List BundleDraft}
    {bundle : Bundle} (h : bundle ∈ bundles tag row first bs) :
    ∃ b ∈ bs, ∃ first', bundle = b.bundle tag row first' := by
  induction bs generalizing first with
  | nil => nomatch h
  | cons b bs ih =>
    rcases List.mem_cons.1 h with rfl | h
    · exact ⟨b, List.mem_cons_self, first, rfl⟩
    · obtain ⟨b, hb, h⟩ := ih h
      exact ⟨b, List.mem_cons_of_mem _ hb, h⟩

theorem size_append (as bs : List BundleDraft) : size (as ++ bs) = size as + size bs := by
  simp [size]

/-- The lexemes of a provider, a bundle each. -/
theorem bundles_map (tag : String) (row : Row) (p : Provider) (first : Int64)
    (gs : List (List Draft)) :
    bundles tag row first (gs.map (⟨p, ·⟩)) =
      (Draft.lexemes p.orthographyId first gs).map (p.bundle tag row) := by
  induction gs generalizing first with
  | nil => rfl
  | cons ds gs ih =>
    rw [List.map_cons, bundles, ih]
    rfl

theorem size_map (p : Provider) (gs : List (List Draft)) :
    size (gs.map (⟨p, ·⟩)) = gs.flatten.length := by
  rw [size, List.map_map, List.length_flatten]
  rfl

/-- What holds of a bundle whatever its row says. -/
structure IsSound (b : BundleDraft) : Prop where
  drafts_ne_nil : b.drafts ≠ []
  sound : ∀ d ∈ b.drafts, d.IsSound
  dialects : ∀ d ∈ b.drafts, d.dialectIds.isSome

/-- No form of a bundle is empty. -/
def IsFilled (b : BundleDraft) : Prop := ∀ d ∈ b.drafts, d.IsFilled

end BundleDraft

/-! ## Providers -/

/-- What is made of a cell is the run of one sketch on every line, and for every provider. -/
theorem Creator.createLexemes_sketches {c : Creator} (h : c.isInitialised) (row : Row) :
    ∃ s : Sketch (List (List Draft)),
      (∀ gs, s.outcome = .ok gs → s.drawn = gs.flatten.length ∧ (∀ ds ∈ gs, ds ≠ []) ∧
        (∀ d ∈ gs.flatten, d.IsSound) ∧
        ((∀ d ∈ gs.flatten, d.IsFilled) ↔ ¬c.grammar.LeavesEmpty (c.cell row))) ∧
      ∀ label orthographyId (row' : Row), row'.cells = row.cells →
        c.createLexemes label orthographyId row' =
          .ok (s.run Draft.lexemes (c.context label orthographyId row')) := by
  obtain ⟨slots, hslots⟩ := Option.isSome_iff_exists.1 h
  obtain ⟨s, hs, hc⟩ := c.grammar.createLexemes_sketches slots c.tag (c.cell row)
  refine ⟨s, hs, fun label orthographyId row' hrow' => ?_⟩
  rw [createLexemes, hslots, ← hc, cell, cell, Row.cell, hrow']
  rfl

namespace Provider

/-- The creators of a provider can be used. -/
def IsReady (p : Provider) : Prop := ∀ bound ∈ p.creators, bound.creator.isInitialised

/-- Whether a provider makes a form without text of a row, unless it fails. -/
def LeavesEmpty (p : Provider) (tag : String) (row : Row) : Prop :=
  ∃ bound, p.creator? tag = some bound ∧
    bound.creator.grammar.LeavesEmpty (bound.creator.cell row)

theorem lexemes_sketches (p : Provider) {bound : BoundCreator} (h : bound.creator.isInitialised)
    (tag : String) (row : Row) :
    RowBuild.Sketches row (fun _ => Draft.lexemes p.orthographyId) (fun gs => gs.flatten.length)
      (fun gs => (∀ ds ∈ gs, ds ≠ []) ∧ (∀ d ∈ gs.flatten, d.IsSound ∧ d.dialectIds.isSome) ∧
        ((∀ d ∈ gs.flatten, d.IsFilled) ↔
          ¬bound.creator.grammar.LeavesEmpty (bound.creator.cell row)))
      fun row => p.lexemes bound tag row := by
  obtain ⟨⟨messages, drawn, outcome⟩, hs, hcreate⟩ := Creator.createLexemes_sketches h row
  let remarks : List Remark := messages.map (⟨p.label tag, bound.creator.column, ·⟩)
  cases outcome with
  | error e =>
    refine ⟨⟨remarks, drawn, .error ⟨p.label tag, bound.creator.column, e⟩⟩, ?_,
      fun row' hrow' ledger => ?_⟩
    · intro hs' houtcome
      cases houtcome
    · show p.lexemes bound tag row' ledger = _
      rw [lexemes_apply (hcreate _ _ row' hrow'), Sketch.run, Ledger.warn_eq_remark]
      rfl
  | ok gs =>
    obtain ⟨rfl, hP⟩ := hs gs rfl
    refine ⟨⟨remarks, gs.flatten.length,
      (gs.mapM (Draft.distribute p.dialects row bound.dialectColumn)).mapError
        (⟨p.label tag, bound.dialectColumn.getD bound.creator.column, ·⟩)⟩, ?_,
      fun row' hrow' ledger => ?_⟩
    · intro hs' houtcome
      cases hdistributed : gs.mapM (Draft.distribute p.dialects row bound.dialectColumn) with
      | error e => rw [hdistributed] at houtcome; cases houtcome
      | ok hs =>
        rw [hdistributed] at houtcome
        obtain rfl := Except.ok.inj houtcome
        have hrel := Draft.forall₂_mapM_distribute hdistributed
        exact ⟨(List.rel_flatten hrel).length_eq, Draft.sound_of_forall₂ hrel hP⟩
    · show p.lexemes bound tag row' ledger = _
      rw [lexemes_apply (hcreate _ _ row' hrow'), Sketch.run, Ledger.warn_eq_remark]
      dsimp only [Except.map]
      rw [Draft.mapM_distribute_lexemes, Draft.distribute_congr _ _ hrow']
      cases gs.mapM (Draft.distribute p.dialects row bound.dialectColumn) <;> rfl

theorem bundles_sketches {p : Provider} (hp : p.IsReady) (tag : String) (row : Row) :
    RowBuild.Sketches row (BundleDraft.bundles tag) BundleDraft.size
      (fun bs => (∀ b ∈ bs, b.provider = p ∧ b.IsSound) ∧
        ((∀ b ∈ bs, b.IsFilled) ↔ ¬p.LeavesEmpty tag row))
      fun row => p.bundles tag row := by
  unfold bundles LeavesEmpty
  cases hbound : p.creator? tag with
  | none => exact .pure (a := []) rfl ⟨nofun, by simp⟩ _ fun _ _ => rfl
  | some bound =>
    refine (p.lexemes_sketches (hp bound (List.mem_of_find?_eq_some hbound)) tag row).map
      (fun gs => gs.map (⟨p, ·⟩)) (fun row lexemes => lexemes.map (p.bundle tag row))
      (fun gs row first => BundleDraft.bundles_map ..) (fun gs => BundleDraft.size_map ..) ?_
    rintro gs ⟨hne, hsound, hfilled⟩
    simp only [List.forall_mem_flatten] at hsound hfilled
    rw [List.forall_mem_map, List.forall_mem_map]
    refine ⟨fun ds hds => ⟨rfl, hne ds hds, fun d hd => (hsound ds hds d hd).1,
      fun d hd => (hsound ds hds d hd).2⟩, ?_⟩
    show (∀ ds ∈ gs, ∀ d ∈ ds, d.IsFilled) ↔ _
    simpa only [Option.some.injEq, exists_eq_left'] using hfilled

end Provider

/-! ## Rows -/

theorem rowBundles_cons (p : Provider) (ps : List Provider) (tag : String) (row : Row) :
    rowBundles (p :: ps) tag row =
      (do return (← p.bundles tag row) ++ (← rowBundles ps tag row)) := by
  simp only [rowBundles, List.mapM_cons, bind_assoc, pure_bind, List.flatten_cons]

/-- What holds of the bundles of a row, unless a provider fails. -/
structure BundleDraft.Suit (ps : List Provider) (tag : String) (row : Row)
    (bs : List BundleDraft) : Prop where
  provider_mem : ∀ b ∈ bs, b.provider ∈ ps
  sound : ∀ b ∈ bs, b.IsSound
  filled_iff : (∀ b ∈ bs, b.IsFilled) ↔ ∀ p ∈ ps, ¬p.LeavesEmpty tag row

theorem rowBundles_sketches {ps : List Provider} (hps : ∀ p ∈ ps, p.IsReady) (tag : String)
    (row : Row) :
    RowBuild.Sketches row (BundleDraft.bundles tag) BundleDraft.size (BundleDraft.Suit ps tag row)
      fun row => rowBundles ps tag row := by
  induction ps with
  | nil => exact .pure (a := []) rfl ⟨nofun, nofun, by simp⟩ [] fun _ _ => rfl
  | cons p ps ih =>
    simp only [rowBundles_cons]
    refine .seq (Provider.bundles_sketches (hps p List.mem_cons_self) tag row)
      (ih fun q hq => hps q (List.mem_cons_of_mem _ hq)) (· ++ ·) (· ++ ·)
      (fun as bs row first => BundleDraft.bundles_append ..)
      (fun as bs => BundleDraft.size_append ..) ?_
    rintro as bs ⟨has, hfilled⟩ hbs
    refine ⟨?_, ?_, ?_⟩
    · exact List.forall_mem_append.2 ⟨fun b hb => List.mem_cons.2 (.inl (has b hb).1),
        fun b hb => List.mem_cons_of_mem _ (hbs.provider_mem b hb)⟩
    · exact List.forall_mem_append.2 ⟨fun b hb => (has b hb).2, hbs.sound⟩
    · rw [List.forall_mem_append, List.forall_mem_cons, hfilled, hbs.filled_iff]

/-- What a row comes to on some line, with the id of its first variant. -/
def RowSketch.result (s : RowSketch (List BundleDraft)) (tag : String) (row : Row)
    (first : Int64) : RowResult where
  ids := ⟨first, s.drawn⟩
  diagnostics := s.remarks.map (·.warning row.line) ++
    match s.outcome with
    | .ok _ => []
    | .error failure => [failure.diagnostic row.line]
  bundles := s.outcome.toOption.map (BundleDraft.bundles tag row first)

/-- Rows with the same cells come to the same thing on all lines, but for their ids. -/
theorem exists_buildRow_eq {ps : List Provider} (hps : ∀ p ∈ ps, p.IsReady) (posColumn : Nat)
    (row : Row) :
    ∃ s : RowSketch (List BundleDraft),
      (∀ bs, s.outcome = .ok bs → s.drawn = BundleDraft.size bs ∧
        BundleDraft.Suit ps (row.cell posColumn) row bs) ∧
      ∀ row', row'.cells = row.cells → ∀ first,
        buildRow ps posColumn row' first = .ok (s.result (row.cell posColumn) row' first) := by
  obtain ⟨s, hs, hc⟩ := rowBundles_sketches hps (row.cell posColumn) row
  refine ⟨s, hs, fun row' hrow' first => ?_⟩
  have htag : row'.cell posColumn = row.cell posColumn := by rw [Row.cell, Row.cell, hrow']
  have hrun := hc row' hrow' ⟨⟨first, 0⟩, []⟩
  dsimp only at hrun
  rw [buildRow, htag, hrun]
  obtain ⟨remarks, drawn, outcome⟩ := s
  cases outcome <;>
  simp [RowSketch.result, Ledger.remark, Ledger.draw, IdSequence.draw, Ledger.nextId, Except.map,
    Except.toOption]

end Wordbook
