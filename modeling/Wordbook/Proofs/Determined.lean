import Mathlib.Data.List.Induction
import Wordbook.Proofs.Sketch

/-!
# Creations that a condition determines

`Sketches` says what holds of whatever is created. Here the condition is exact: a
creation succeeds with a thing if and only if the condition holds of it, so that
a thing of which it holds is created for certain.

* `Creation.Determined.apply_eq_ok_iff`, `Creation.Determined.exists_error`: what
  such a creation comes to;
* `Creation.Determined.range`, `Creation.Determined.mapM`: several creations, one
  after another.
-/

namespace Wordbook.Creation

variable {α β γ : Type}

/-- In every context, a creation is that of one sketch. It succeeds with what `P` holds of, and with
nothing else. -/
def Determined (make : Int64 → Int64 → α → β) (size : α → Nat) (P : α → Prop)
    (c : Context → Creation β) : Prop :=
  ∃ s : Sketch α, (∀ a, s.outcome = .ok a → s.drawn = size a) ∧ (∀ a, P a ↔ s.outcome = .ok a) ∧
    ∀ ctx, c ctx = s.run make ctx

/-- A creation of something that has no ids. -/
abbrev DeterminedDraft (P : α → Prop) (c : Context → Creation α) : Prop :=
  Determined (fun _ _ a => a) (fun _ => 0) P c

section

variable {make : Int64 → Int64 → β → γ} {size : β → Nat} {P Q : β → Prop}
  {c : Context → Creation γ}

theorem Determined.congr (h : Determined make size P c) (hPQ : ∀ b, P b ↔ Q b) :
    Determined make size Q c := by
  obtain ⟨s, hsize, hs, hc⟩ := h
  exact ⟨s, hsize, fun b => (hPQ b).symm.trans (hs b), hc⟩

theorem Determined.sketches (h : Determined make size P c) : Sketches make size P c := by
  obtain ⟨s, hsize, hs, hc⟩ := h
  exact ⟨s, fun b hb => ⟨hsize b hb, (hs b).2 hb⟩, hc⟩

theorem Determined.apply_eq_ok_iff (h : Determined make size P c) {ctx : Context} {ledger : Ledger}
    {d : γ} :
    (∃ after, c ctx ledger = (.ok d, after)) ↔
      ∃ b, P b ∧ d = make ctx.orthographyId ledger.nextId b := by
  obtain ⟨⟨messages, drawn, outcome⟩, -, hs, hc⟩ := h
  simp only [hs, hc]
  constructor
  · rintro ⟨after, hrun⟩
    obtain ⟨b, hb, rfl⟩ := map_eq_ok_iff.1 (congrArg Prod.fst hrun)
    exact ⟨b, hb, rfl⟩
  · rintro ⟨b, rfl, rfl⟩
    exact ⟨_, rfl⟩

theorem Determined.exists_error (h : Determined make size P c) (hP : ∀ b, ¬P b) (ctx : Context)
    (ledger : Ledger) : ∃ e after, c ctx ledger = (.error e, after) := by
  obtain ⟨⟨messages, drawn, outcome⟩, -, hs, hc⟩ := h
  cases outcome with
  | error e => exact ⟨e, _, congrFun (hc ctx) ledger⟩
  | ok b => exact absurd ((hs b).2 rfl) (hP b)

theorem Determined.bind {P : α → Prop} {Q : α → β → Prop} {c : Context → Creation α}
    {f : Context → α → Creation γ} (hc : DeterminedDraft P c)
    (hf : ∀ a, P a → Determined make size (Q a) fun ctx => f ctx a) :
    Determined make size (fun b => ∃ a, P a ∧ Q a b) fun ctx => c ctx >>= f ctx := by
  obtain ⟨⟨messages, drawn, outcome⟩, hsize, hs, hc⟩ := hc
  cases outcome with
  | error e =>
    have hnone (b : β) : ¬∃ a, P a ∧ Q a b := fun ⟨a, ha, _⟩ => nomatch (hs a).1 ha
    refine ⟨⟨messages, drawn, .error e⟩, nofun, fun b => iff_of_false (hnone b) nofun,
      fun ctx => ?_⟩
    simp only [hc]
    exact Sketch.run_error_bind messages drawn e (f ctx)
  | ok a =>
    have hP (a' : α) : P a' ↔ a' = a := (hs a').trans ok_eq_ok_iff
    obtain rfl : drawn = 0 := hsize a rfl
    obtain ⟨s, hsize, hs, hf⟩ := hf a ((hP a).2 rfl)
    refine ⟨⟨messages ++ s.warnings, s.drawn, s.outcome⟩, hsize, fun b => ?_, fun ctx => ?_⟩
    · simp only [hP, exists_eq_left, hs]
    · simp only [hc]
      exact Sketch.run_ok_bind (hf ctx) messages

/-- One creation after another. The ids of the second one begin where those of the first one end. -/
theorem Determined.seq {α₁ α₂ γ₁ γ₂ : Type} {make₁ : Int64 → Int64 → α₁ → γ₁} {size₁ : α₁ → Nat}
    {make₂ : Int64 → Int64 → α₂ → γ₂} {size₂ : α₂ → Nat} {P₁ : α₁ → Prop} {P₂ : α₂ → Prop}
    {c₁ : Context → Creation γ₁} {c₂ : Context → Creation γ₂}
    (h₁ : Determined make₁ size₁ P₁ c₁) (h₂ : Determined make₂ size₂ P₂ c₂)
    (joinSketch : α₁ → α₂ → β) (join : γ₁ → γ₂ → γ)
    (hmake : ∀ a₁ a₂, P₁ a₁ → ∀ orthographyId first, make orthographyId first (joinSketch a₁ a₂) =
      join (make₁ orthographyId first a₁)
        (make₂ orthographyId (first - Int64.ofNat (size₁ a₁)) a₂))
    (hsize : ∀ a₁ a₂, size (joinSketch a₁ a₂) = size₁ a₁ + size₂ a₂) :
    Determined make size (fun b => ∃ a₁ a₂, P₁ a₁ ∧ P₂ a₂ ∧ joinSketch a₁ a₂ = b)
      fun ctx => do return join (← c₁ ctx) (← c₂ ctx) := by
  obtain ⟨⟨messages, drawn, outcome⟩, hsize₁, hs₁, hc₁⟩ := h₁
  cases outcome with
  | error e =>
    have hnone (b : β) : ¬∃ a₁ a₂, P₁ a₁ ∧ P₂ a₂ ∧ joinSketch a₁ a₂ = b :=
      fun ⟨a₁, _, ha₁, _⟩ => nomatch (hs₁ a₁).1 ha₁
    refine ⟨⟨messages, drawn, .error e⟩, nofun, fun b => iff_of_false (hnone b) nofun,
      fun ctx => ?_⟩
    simp only [hc₁]
    exact Sketch.run_error_bind messages drawn e _
  | ok a₁ =>
    have hP₁ (a : α₁) : P₁ a ↔ a = a₁ := (hs₁ a).trans ok_eq_ok_iff
    obtain rfl : drawn = size₁ a₁ := hsize₁ a₁ rfl
    obtain ⟨s₂, hsize₂, hs₂, hc₂⟩ := h₂
    refine ⟨⟨messages ++ s₂.warnings, size₁ a₁ + s₂.drawn, s₂.outcome.map (joinSketch a₁)⟩, ?_,
      fun b => ?_, fun ctx => ?_⟩
    · intro b hb
      obtain ⟨a₂, ha₂, rfl⟩ := map_eq_ok_iff.1 hb
      rw [hsize, hsize₂ a₂ ha₂]
    · simp only [hP₁, hs₂, exists_and_left, exists_eq_left, map_eq_ok_iff]
    · simp only [hc₁, hc₂]
      exact Sketch.run_ok_seq joinSketch join (fun a₂ => hmake a₁ a₂ ((hP₁ a₁).2 rfl)) messages s₂

theorem Determined.pure {b : β} {d : γ} (hsize : size b = 0)
    (h : ∀ orthographyId first, make orthographyId first b = d) :
    Determined make size (· = b) fun _ => (Pure.pure d : Creation γ) := by
  refine ⟨⟨[], 0, .ok b⟩, ?_, fun b' => ?_, fun _ => Sketch.run_pure h⟩
  · rintro _ ⟨⟩
    exact hsize.symm
  · exact ok_eq_ok_iff.symm

theorem Determined.throw (e : CellError) :
    Determined make size (fun _ => False) fun _ => (MonadExcept.throw e : Creation γ) :=
  ⟨⟨[], 0, .error e⟩, nofun, fun _ => iff_of_false not_false nofun, fun _ => Sketch.run_throw e⟩

end

theorem DeterminedDraft.pure (a : α) :
    DeterminedDraft (· = a) fun _ => (Pure.pure a : Creation α) :=
  Determined.pure rfl fun _ _ => rfl

theorem DeterminedDraft.lift (r : Except CellError α) :
    DeterminedDraft (fun a => r = .ok a) fun _ => (MonadLiftT.monadLift r : Creation α) :=
  ⟨⟨[], 0, r⟩, fun _ _ => rfl, fun _ => Iff.rfl, fun _ => Sketch.run_lift r⟩

theorem DeterminedDraft.warn (message : String) :
    DeterminedDraft (fun _ => True) fun ctx => Creation.warn ctx message :=
  ⟨⟨[message], 0, .ok ()⟩, fun _ _ => rfl, fun _ => iff_of_true trivial rfl, fun _ => rfl⟩

/-- A form is created from every text that is not too long. -/
theorem DeterminedDraft.makeForm (slot : Slot) (text : List Char) (state : FormState) :
    DeterminedDraft (fun form => form = ⟨none, slot.id, String.ofList text, state⟩ ∧
        text.length ≤ maxFormLength)
      fun ctx => Creation.makeForm ctx slot text state := by
  unfold Creation.makeForm
  by_cases h : text.length > maxFormLength
  · simp only [h, ↓reduceIte]
    refine (Determined.bind (Q := fun _ _ => False) (Determined.throw _)
      fun _ h => h.elim).congr fun form => ?_
    simp [Nat.not_le_of_lt h]
  · have hlength : text.length ≤ maxFormLength := Nat.le_of_not_lt h
    simp only [h, ↓reduceIte, hlength, and_true]
    split
    · exact (Determined.bind (DeterminedDraft.warn _) fun _ _ =>
        DeterminedDraft.pure _).congr fun _ => by simp
    · exact .pure _

/-! ## Variants and lexemes -/

theorem Determined.makeVariant (index : Nat) (forms : List Form) (properties : Properties) :
    Determined (Draft.variant index) (fun _ => 1) (· = ⟨forms, properties, none⟩)
      fun ctx => Creation.makeVariant ctx index forms properties :=
  ⟨⟨[], 1, .ok ⟨forms, properties, none⟩⟩, fun _ _ => rfl,
    fun _ => ok_eq_ok_iff.symm,
    Sketch.run_makeVariant index forms properties⟩

/-- The variants of all indices. -/
theorem Determined.range {step : Context → Nat → Creation Variant} {P : Nat → Draft → Prop}
    (h : ∀ k, Determined (Draft.variant k) (fun _ => 1) (P k) fun ctx => step ctx k) (n : Nat) :
    Determined Draft.lexeme List.length (fun ds => ds.length = n ∧ ∀ k d, ds[k]? = some d → P k d)
      fun ctx => (List.range n).mapM (step ctx) := by
  induction n with
  | zero =>
    refine (Determined.pure (b := []) rfl fun _ _ => rfl).congr fun ds => ?_
    cases ds <;> simp
  | succ n ih =>
    simp only [List.range_succ, List.mapM_append, List.mapM_cons, List.mapM_nil, bind_assoc,
      pure_bind]
    refine (Determined.seq ih (h n) (fun ds d => ds ++ [d]) (fun vs v => vs ++ [v]) ?_
      (by simp)).congr fun ds => ?_
    · rintro ds d ⟨rfl, -⟩ orthographyId first
      exact Draft.lexeme_append ..
    · constructor
      · rintro ⟨ds, d, ⟨rfl, hds⟩, hd, rfl⟩
        refine ⟨by simp, fun k d' hk => ?_⟩
        rw [List.getElem?_append] at hk
        split at hk
        · exact hds k d' hk
        · obtain ⟨hlt, rfl⟩ := List.getElem?_eq_some_iff.1 hk
          obtain rfl : k = ds.length := by simp at hlt; omega
          simpa using hd
      · rintro ⟨hlength, hds⟩
        cases ds using List.reverseRecOn with
        | nil => nomatch hlength
        | append_singleton ds d =>
          obtain rfl : ds.length = n := by simpa using hlength
          refine ⟨ds, d, ⟨rfl, fun k d' hk => hds k d' ?_⟩, hds ds.length d (by simp), rfl⟩
          rw [List.getElem?_append_left (List.getElem?_eq_some_iff.1 hk).1]
          exact hk

/-- The lexemes of all parts. -/
theorem Determined.mapM {f : Context → α → Creation (List Variant)} {P : α → List Draft → Prop}
    {as : List α} (h : ∀ a ∈ as, Determined Draft.lexeme List.length (P a) fun ctx => f ctx a) :
    Determined Draft.lexemes (fun gs => gs.flatten.length) (List.Forall₂ P as)
      fun ctx => as.mapM (f ctx) := by
  induction as with
  | nil =>
    refine (Determined.pure (b := []) rfl fun _ _ => rfl).congr fun gs => ?_
    exact List.forall₂_nil_left_iff.symm
  | cons a as ih =>
    obtain ⟨ha, has⟩ := List.forall_mem_cons.1 h
    simp only [List.mapM_cons]
    refine (Determined.seq ha (ih has) List.cons List.cons (fun _ _ _ _ _ => rfl)
      (by simp)).congr fun gs => ?_
    rw [List.forall₂_cons_left_iff]
    simp only [eq_comm, exists_and_left]

/-- Leaving out lexemes without variants changes nothing if there are none. -/
theorem Determined.dropEmpty {P : List (List Draft) → Prop}
    {c : Context → Creation (List (List Variant))}
    (h : Determined Draft.lexemes (fun gs => gs.flatten.length) P c)
    (hne : ∀ gs, P gs → ∀ g ∈ gs, g ≠ []) :
    Determined Draft.lexemes (fun gs => gs.flatten.length) P
      fun ctx => do return (← c ctx).filter (!·.isEmpty) := by
  obtain ⟨⟨messages, drawn, outcome⟩, hsize, hs, hc⟩ := h
  refine ⟨⟨messages, drawn, outcome⟩, hsize, hs, fun ctx => ?_⟩
  dsimp only
  rw [hc]
  cases outcome with
  | error e => exact Sketch.run_error_bind messages drawn e _
  | ok gs => exact Sketch.run_filter messages drawn (hne gs ((hs gs).2 rfl))

/-- Variants that are a lexeme of their own, unless there are none. -/
theorem Determined.single {P : List Draft → Prop} {c : Context → Creation (List Variant)}
    (h : Determined Draft.lexeme List.length P c) (hne : ∀ ds, P ds → ds ≠ []) :
    Determined Draft.lexemes (fun gs => gs.flatten.length) (fun gs => ∃ ds, P ds ∧ [ds] = gs)
      fun ctx => do
        let variants ← c ctx
        return if variants.isEmpty then [] else [variants] := by
  obtain ⟨⟨messages, drawn, outcome⟩, hsize, hs, hc⟩ := h
  refine ⟨⟨messages, drawn, outcome.map ([·])⟩, ?_, fun gs => ?_,
    fun ctx => funext fun ledger => ?_⟩
  · intro gs hgs
    obtain ⟨ds, hds, rfl⟩ := map_eq_ok_iff.1 hgs
    simpa using hsize ds hds
  · simp only [hs, map_eq_ok_iff]
  · show (c ctx >>= _) ledger = _
    rw [bind_apply, hc]
    cases outcome with
    | error e => rfl
    | ok ds =>
      show (Except.ok (if (Draft.lexeme ..).isEmpty then [] else [Draft.lexeme ..]), _) = _
      rw [Draft.isEmpty_lexeme, if_neg (by simpa using hne ds ((hs ds).2 rfl))]
      rfl

end Wordbook.Creation
