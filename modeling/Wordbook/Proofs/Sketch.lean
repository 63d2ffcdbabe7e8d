import Mathlib.Data.List.Induction
import Wordbook.Proofs.Except
import Wordbook.Proofs.Ids

/-!
# Sketches of creations

What a creation comes to hangs on its cell alone: the context gives the names in
its warnings, the ledger gives the ids. A `Sketch` is what is left when both are
taken away, and `Sketch.run` puts them back.

* `Creation.Sketches`: a creation is the run of a sketch;
* `Sketch.run_ok_bind`, `Sketch.run_ok_seq`: one creation after another;
* `Draft.lexemes`: the variants of some lexemes, with the ids that they draw.
-/

namespace Wordbook

open Creation

variable {α β : Type}

namespace Ledger

/-- The ledger once some warnings have been raised. -/
def warn (ledger : Ledger) (ctx : Context) (messages : List String) : Ledger :=
  { ledger with diagnostics := ledger.diagnostics ++ messages.map fun message =>
      ⟨.warning, message, ctx.label, ctx.line, some ctx.column⟩ }

/-- The ledger once some ids have been drawn. -/
def draw (ledger : Ledger) (count : Nat) : Ledger := { ledger with ids := ledger.ids.draw count }

@[simp] theorem warn_nil (ledger : Ledger) (ctx : Context) : ledger.warn ctx [] = ledger := by
  simp [warn]

theorem warn_warn (ledger : Ledger) (ctx : Context) (ms ns : List String) :
    (ledger.warn ctx ms).warn ctx ns = ledger.warn ctx (ms ++ ns) := by
  simp [warn]

@[simp] theorem draw_zero (ledger : Ledger) : ledger.draw 0 = ledger := rfl

theorem draw_draw (ledger : Ledger) (m n : Nat) : (ledger.draw m).draw n = ledger.draw (m + n) := by
  simp only [draw, IdSequence.draw_draw]

theorem draw_warn (ledger : Ledger) (ctx : Context) (ms : List String) (count : Nat) :
    (ledger.draw count).warn ctx ms = (ledger.warn ctx ms).draw count := rfl

@[simp] theorem nextId_warn (ledger : Ledger) (ctx : Context) (ms : List String) :
    (ledger.warn ctx ms).nextId = ledger.nextId := rfl

theorem nextId_draw (ledger : Ledger) (count : Nat) :
    (ledger.draw count).nextId = ledger.nextId - Int64.ofNat count :=
  IdSequence.next_draw ..

end Ledger

namespace Creation

theorem bind_apply (c : Creation α) (f : α → Creation β) (ledger : Ledger) :
    (c >>= f) ledger = match c ledger with
      | (.ok a, ledger) => f a ledger
      | (.error e, ledger) => (.error e, ledger) := by
  show (match c ledger with | (r, ledger) => ExceptT.bindCont f r ledger) = _
  rcases c ledger with ⟨_ | a, ledger⟩ <;> rfl

end Creation

/-! ## Sketches -/

/-- What a creation comes to, wherever its cell stands and whichever ids it draws. -/
structure Sketch (α : Type) where
  warnings : List String
  /-- How many ids are drawn. -/
  drawn : Nat
  outcome : Except CellError α

/-- The creation of a sketch. The orthography and the id of the first variant come in by `make`. -/
def Sketch.run (s : Sketch α) (make : Int64 → Int64 → α → β) (ctx : Context) : Creation β :=
  fun ledger => (s.outcome.map (make ctx.orthographyId ledger.nextId),
    (ledger.warn ctx s.warnings).draw s.drawn)

namespace Sketch

variable {γ : Type} {make : Int64 → Int64 → β → γ} {ctx : Context}

theorem run_throw (e : CellError) :
    (MonadExcept.throw e : Creation γ) = run ⟨[], 0, .error e⟩ make ctx := by
  funext ledger
  rw [run, Ledger.warn_nil]
  rfl

theorem run_pure {b : β} {c : γ} (h : ∀ orthographyId first, make orthographyId first b = c) :
    (pure c : Creation γ) = run ⟨[], 0, .ok b⟩ make ctx := by
  funext ledger
  rw [run, Ledger.warn_nil, Except.map, h]
  rfl

/-- What is read off a cell is all that is created. -/
theorem run_lift (r : Except CellError α) :
    (MonadLiftT.monadLift r : Creation α) = run ⟨[], 0, r⟩ (fun _ _ a => a) ctx := by
  funext ledger
  rw [run, Ledger.warn_nil]
  cases r <;> rfl

/-- Nothing is done after a creation that fails. -/
theorem run_error_bind {γ' : Type} {make' : Int64 → Int64 → α → γ'} (messages : List String)
    (drawn : Nat) (e : CellError) (f : γ' → Creation γ) :
    (run ⟨messages, drawn, .error e⟩ make' ctx >>= f) =
      run ⟨messages, drawn, .error e⟩ make ctx := by
  funext ledger
  rw [bind_apply]
  rfl

/-- What goes on from something without ids is created with all of its own ids. -/
theorem run_ok_bind {f : α → Creation γ} {a : α} {s : Sketch β} (h : f a = s.run make ctx)
    (messages : List String) :
    (run ⟨messages, 0, .ok a⟩ (fun _ _ a => a) ctx >>= f) =
      run ⟨messages ++ s.warnings, s.drawn, s.outcome⟩ make ctx := by
  funext ledger
  rw [bind_apply, run, run, ← Ledger.warn_warn]
  exact congrFun h _

/-- The ids of what is created second begin where those of what is created first end. -/
theorem run_ok_seq {α₁ α₂ γ₁ γ₂ : Type} {make₁ : Int64 → Int64 → α₁ → γ₁}
    {make₂ : Int64 → Int64 → α₂ → γ₂} (joinSketch : α₁ → α₂ → β) (join : γ₁ → γ₂ → γ) {a₁ : α₁}
    {drawn : Nat}
    (hmake : ∀ a₂ orthographyId first, make orthographyId first (joinSketch a₁ a₂) =
      join (make₁ orthographyId first a₁) (make₂ orthographyId (first - Int64.ofNat drawn) a₂))
    (messages : List String) (s : Sketch α₂) :
    (do return join (← run ⟨messages, drawn, .ok a₁⟩ make₁ ctx) (← s.run make₂ ctx)) =
      run ⟨messages ++ s.warnings, drawn + s.drawn, s.outcome.map (joinSketch a₁)⟩ make ctx := by
  obtain ⟨more, drawn', outcome⟩ := s
  funext ledger
  rw [bind_apply]
  show (run ⟨more, drawn', outcome⟩ make₂ ctx >>= _) ((ledger.warn ctx messages).draw drawn) = _
  rw [bind_apply]
  cases outcome with
  | error e =>
    simp only [run, Except.map, Ledger.draw_warn, Ledger.warn_warn, Ledger.draw_draw]
  | ok a₂ =>
    simp only [run, Except.map, Ledger.draw_warn, Ledger.warn_warn, Ledger.draw_draw, hmake,
      Ledger.nextId_draw, Ledger.nextId_warn]
    rfl

end Sketch

namespace Creation

/-- In every context, a creation is that of one sketch. If it succeeds, it draws as many ids as what
is sketched has variants, and `P` holds of what is sketched. -/
def Sketches (make : Int64 → Int64 → α → β) (size : α → Nat) (P : α → Prop)
    (c : Context → Creation β) : Prop :=
  ∃ s : Sketch α, (∀ a, s.outcome = .ok a → s.drawn = size a ∧ P a) ∧ ∀ ctx, c ctx = s.run make ctx

theorem Sketches.imp {make : Int64 → Int64 → α → β} {size : α → Nat} {P Q : α → Prop}
    {c : Context → Creation β} (h : Sketches make size P c) (hPQ : ∀ a, P a → Q a) :
    Sketches make size Q c := by
  obtain ⟨s, hs, hc⟩ := h
  exact ⟨s, fun a ha => ⟨(hs a ha).1, hPQ a (hs a ha).2⟩, hc⟩

end Creation

/-- What a variant is made of, but for its ids and its place among the others. -/
structure Draft where
  forms : List Form
  properties : Properties
  /-- The dialects, once they are distributed. -/
  dialectIds : Option (SortedSet Int64)

namespace Draft

/-- The variant at an index. -/
def variant (index : Nat) (orthographyId id : Int64) (d : Draft) : Variant :=
  { Variant.create id orthographyId (index == 0) d.forms d.properties with
    dialectIds := d.dialectIds }

/-- The variants of a lexeme, with ids that count down from the first one. -/
def lexeme (orthographyId first : Int64) (ds : List Draft) : List Variant :=
  ds.mapIdx fun k d => d.variant k orthographyId (first - Int64.ofNat k)

/-- The variants of some lexemes, with ids that count down from the first one. -/
def lexemes (orthographyId : Int64) : Int64 → List (List Draft) → List (List Variant)
  | _, [] => []
  | first, ds :: rest =>
    lexeme orthographyId first ds ::
      lexemes orthographyId (first - Int64.ofNat ds.length) rest

@[simp] theorem length_lexeme (orthographyId first : Int64) (ds : List Draft) :
    (lexeme orthographyId first ds).length = ds.length := by
  simp [lexeme]

theorem lexeme_append (orthographyId first : Int64) (ds : List Draft) (d : Draft) :
    lexeme orthographyId first (ds ++ [d]) = lexeme orthographyId first ds ++
      [d.variant ds.length orthographyId (first - Int64.ofNat ds.length)] := by
  simp [lexeme, List.mapIdx_append]

theorem isEmpty_lexeme (orthographyId first : Int64) (ds : List Draft) :
    (lexeme orthographyId first ds).isEmpty = ds.isEmpty := by
  cases ds <;> simp [lexeme]

/-- A lexeme without variants takes no ids from the others. -/
theorem filter_lexemes (orthographyId first : Int64) (gs : List (List Draft)) :
    (lexemes orthographyId first gs).filter (!·.isEmpty) =
      lexemes orthographyId first (gs.filter (!·.isEmpty)) := by
  induction gs generalizing first with
  | nil => rfl
  | cons ds gs ih =>
    rw [lexemes, List.filter_cons, List.filter_cons, isEmpty_lexeme, ih]
    cases ds with
    | nil => simp
    | cons d ds => rfl

end Draft

/-- A variant draws its id when all else has been done. -/
theorem Sketch.run_makeVariant (index : Nat) (forms : List Form) (properties : Properties)
    (ctx : Context) :
    Creation.makeVariant ctx index forms properties =
      run ⟨[], 1, .ok ⟨forms, properties, none⟩⟩ (Draft.variant index) ctx := by
  funext ledger
  rw [run, Ledger.warn_nil]
  rfl

namespace Sketch

variable {ctx : Context}

/-- The variants of all indices, none of which raises a warning. -/
theorem run_range {step : Nat → Creation Variant} {ds : List Draft}
    (h : ∀ k d, ds[k]? = some d → step k = run ⟨[], 1, .ok d⟩ (Draft.variant k) ctx) :
    (List.range ds.length).mapM step = run ⟨[], ds.length, .ok ds⟩ Draft.lexeme ctx := by
  induction ds using List.reverseRecOn with
  | nil => exact run_pure fun _ _ => rfl
  | append_singleton ds d ih =>
    have hinit : (List.range ds.length).mapM step = run ⟨[], ds.length, .ok ds⟩ Draft.lexeme ctx :=
      ih fun k e hk => h k e (List.getElem?_append_left (List.getElem?_eq_some_iff.1 hk).1 ▸ hk)
    simp only [List.length_append, List.length_singleton, List.range_succ, List.mapM_append,
      List.mapM_cons, List.mapM_nil, bind_assoc, pure_bind]
    rw [hinit, h ds.length d (by simp)]
    exact run_ok_seq (fun ds d => ds ++ [d]) (fun vs v => vs ++ [v])
      (fun d orthographyId first => Draft.lexeme_append ..) [] ⟨[], 1, .ok d⟩

/-- The lexemes of all parts, each with its warnings. -/
theorem run_mapM {f : α → Creation (List Variant)} {messages : α → List String}
    {drafts : α → List Draft} {as : List α}
    (h : ∀ a ∈ as, f a = run ⟨messages a, (drafts a).length, .ok (drafts a)⟩ Draft.lexeme ctx) :
    as.mapM f = run ⟨as.flatMap messages, (as.flatMap drafts).length, .ok (as.map drafts)⟩
      Draft.lexemes ctx := by
  induction as with
  | nil => exact run_pure fun _ _ => rfl
  | cons a as ih =>
    obtain ⟨ha, has⟩ := List.forall_mem_cons.1 h
    rw [List.mapM_cons, ha, ih has, List.flatMap_cons, List.flatMap_cons, List.length_append]
    exact run_ok_seq List.cons List.cons (fun _ _ _ => rfl) _ ⟨_, _, .ok _⟩

/-- Leaving out lexemes without variants changes nothing if there are none. -/
theorem run_filter (messages : List String) (drawn : Nat) {gs : List (List Draft)}
    (h : ∀ ds ∈ gs, ds ≠ []) :
    (do return (← run ⟨messages, drawn, .ok gs⟩ Draft.lexemes ctx).filter (!·.isEmpty)) =
      run ⟨messages, drawn, .ok gs⟩ Draft.lexemes ctx := by
  funext ledger
  rw [bind_apply]
  show (Except.ok ((Draft.lexemes ..).filter (!·.isEmpty)), _) = _
  rw [Draft.filter_lexemes, List.filter_eq_self.2 fun ds hds => by simpa using h ds hds]
  rfl

end Sketch

end Wordbook
