import Wordbook.Proofs.Row

/-!
# Providers, one after another

The providers make their bundles of a row in their order, and the first one that
fails ends the making. Whether one fails does not hang on those before it.

* `Provider.Chain`: all of them succeed;
* `rowBundles_of_succeeds`, `rowBundles_of_fails`: what a row comes to.
-/

namespace Wordbook

namespace Provider

section

variable (p : Provider) (tag : String) (row : Row)

/-- A provider makes its lexemes of a row, with some ledger, or has nothing to make. -/
def Succeeds : Prop :=
  ∀ bound, p.creator? tag = some bound → ∃ ledger lexemes after,
    p.Makes bound tag row ledger lexemes after

/-- A provider fails on a row, with some ledger. -/
def Fails (failure : RowFailure) : Prop :=
  ∃ bound, p.creator? tag = some bound ∧ ∃ ledger after,
    p.Refuses bound tag row ledger failure after

end

variable {p : Provider} {bound : BoundCreator} {tag : String} {row : Row}

theorem creator?_isInitialised (hp : p.IsReady) (h : p.creator? tag = some bound) :
    bound.creator.isInitialised :=
  hp bound (List.mem_of_find?_eq_some h)

/-- Whether a creator makes its lexemes of a row, and how it fails, does not hang on the ledger. -/
theorem makes_or_refuses (p : Provider) (h : bound.creator.isInitialised) (tag : String)
    (row : Row) :
    (∀ ledger, ∃ lexemes after, p.Makes bound tag row ledger lexemes after) ∨
      ∃ failure, ∀ ledger, ∃ after, p.Refuses bound tag row ledger failure after := by
  obtain ⟨⟨remarks, drawn, outcome⟩, -, hc⟩ := p.lexemes_sketches h tag row
  cases outcome with
  | ok gs => exact .inl fun ledger => ⟨_, _, lexemes_eq_ok_iff.1 (hc row rfl ledger)⟩
  | error failure =>
    exact .inr ⟨failure, fun ledger => ⟨_, lexemes_eq_error_iff.1 (hc row rfl ledger)⟩⟩

theorem Makes.not_refuses {ledger after after' : Ledger} {lexemes : List (List Variant)}
    {failure : RowFailure} (h : p.Makes bound tag row ledger lexemes after) :
    ¬p.Refuses bound tag row ledger failure after' := fun h' =>
  nomatch (lexemes_eq_ok_iff.2 h).symm.trans (lexemes_eq_error_iff.2 h')

theorem Refuses.eq {ledger after after' : Ledger} {failure failure' : RowFailure}
    (h : p.Refuses bound tag row ledger failure after)
    (h' : p.Refuses bound tag row ledger failure' after') : failure = failure' :=
  Except.error.inj (congrArg Prod.fst (Except.ok.inj
    ((lexemes_eq_error_iff.2 h).symm.trans (lexemes_eq_error_iff.2 h'))))

theorem Makes.of_ledger (hp : bound.creator.isInitialised) {ledger after : Ledger}
    {lexemes : List (List Variant)} (h : p.Makes bound tag row ledger lexemes after)
    (ledger' : Ledger) : ∃ lexemes' after', p.Makes bound tag row ledger' lexemes' after' := by
  rcases p.makes_or_refuses hp tag row with hmakes | ⟨failure, hrefuses⟩
  · exact hmakes ledger'
  · obtain ⟨_, hrefuses⟩ := hrefuses ledger
    exact absurd hrefuses h.not_refuses

theorem Refuses.of_ledger (hp : bound.creator.isInitialised) {ledger after : Ledger}
    {failure : RowFailure} (h : p.Refuses bound tag row ledger failure after) (ledger' : Ledger) :
    ∃ after', p.Refuses bound tag row ledger' failure after' := by
  rcases p.makes_or_refuses hp tag row with hmakes | ⟨failure', hrefuses⟩
  · obtain ⟨_, _, hmakes⟩ := hmakes ledger
    exact absurd h hmakes.not_refuses
  · obtain ⟨_, hrefuses'⟩ := hrefuses ledger
    rw [h.eq hrefuses']
    exact hrefuses ledger'

theorem succeeds_or_fails (hp : p.IsReady) (tag : String) (row : Row) :
    p.Succeeds tag row ∨ ∃ failure, p.Fails tag row failure := by
  cases hbound : p.creator? tag with
  | none => exact .inl fun bound h => nomatch hbound.symm.trans h
  | some bound =>
    rcases p.makes_or_refuses (creator?_isInitialised hp hbound) tag row with h | ⟨failure, h⟩
    · refine .inl fun bound' hbound' => ?_
      obtain rfl := Option.some.inj (hbound.symm.trans hbound')
      exact ⟨⟨⟨0, 0⟩, []⟩, h _⟩
    · exact .inr ⟨failure, bound, hbound, ⟨⟨0, 0⟩, []⟩, h _⟩

/-- Either all providers succeed, or there is a first one that fails. -/
theorem succeed_or_first_fails {ps : List Provider} (hps : ∀ p ∈ ps, p.IsReady) (tag : String)
    (row : Row) :
    (∀ p ∈ ps, p.Succeeds tag row) ∨ ∃ before p after failure, ps = before ++ p :: after ∧
      (∀ q ∈ before, q.Succeeds tag row) ∧ p.Fails tag row failure := by
  induction ps with
  | nil => exact .inl nofun
  | cons p ps ih =>
    obtain ⟨hp, hps⟩ := List.forall_mem_cons.1 hps
    rcases succeeds_or_fails hp tag row with hsucceeds | ⟨failure, hfails⟩
    · rcases ih hps with h | ⟨before, q, after, failure, rfl, hbefore, hfails⟩
      · exact .inl (List.forall_mem_cons.2 ⟨hsucceeds, h⟩)
      · exact .inr ⟨p :: before, q, after, failure, rfl,
          List.forall_mem_cons.2 ⟨hsucceeds, hbefore⟩, hfails⟩
    · exact .inr ⟨[], p, ps, failure, rfl, nofun, hfails⟩

/-- Providers that succeed one after another, and the bundles that they make, one per lexeme. -/
inductive Chain (tag : String) (row : Row) :
    List Provider → Ledger → List Bundle → Ledger → Prop where
  | nil (ledger) : Chain tag row [] ledger [] ledger
  | idle {p ps ledger bundles after} :
    p.creator? tag = none → Chain tag row ps ledger bundles after →
    Chain tag row (p :: ps) ledger bundles after
  | busy {p ps bound ledger lexemes between bundles after} :
    p.creator? tag = some bound → p.Makes bound tag row ledger lexemes between →
    Chain tag row ps between bundles after →
    Chain tag row (p :: ps) ledger (lexemes.map (p.bundle tag row) ++ bundles) after

theorem bundles_apply_none (h : p.creator? tag = none) (ledger : Ledger) :
    p.bundles tag row ledger = .ok (.ok [], ledger) := by
  rw [bundles, h]
  rfl

theorem bundles_apply_some (h : p.creator? tag = some bound) (ledger : Ledger) :
    p.bundles tag row ledger = (p.lexemes bound tag row ledger).map fun (r, after) =>
      (r.map fun lexemes => lexemes.map (p.bundle tag row), after) := by
  rw [bundles, h]
  show (p.lexemes bound tag row >>= _) ledger = _
  rw [RowBuild.bind_apply]
  rcases p.lexemes bound tag row ledger with _ | ⟨_ | _, _⟩ <;> rfl

end Provider

open Provider

theorem RowBuild.append_apply {α : Type} (c d : RowBuild (List α)) (ledger : Ledger) :
    (do return (← c) ++ (← d) : RowBuild (List α)) ledger = match c ledger with
      | .error fault => .error fault
      | .ok (.error failure, after) => .ok (.error failure, after)
      | .ok (.ok as, between) => (d between).map fun (r, after) => (r.map (as ++ ·), after) := by
  rw [bind_apply]
  rcases c ledger with _ | ⟨_ | as, between⟩
  · rfl
  · rfl
  · dsimp only
    rw [bind_apply]
    rcases d between with _ | ⟨_ | _, _⟩ <;> rfl

theorem rowBundles_append (ps qs : List Provider) (tag : String) (row : Row) :
    rowBundles (ps ++ qs) tag row =
      (do return (← rowBundles ps tag row) ++ (← rowBundles qs tag row)) := by
  simp only [rowBundles, List.mapM_append, bind_assoc, pure_bind, List.flatten_append]

/-- If no provider fails, the row has the bundles of all of them. -/
theorem rowBundles_of_succeeds {ps : List Provider} {tag : String} {row : Row}
    (hps : ∀ p ∈ ps, p.IsReady) (h : ∀ p ∈ ps, p.Succeeds tag row) (ledger : Ledger) :
    ∃ bundles after, rowBundles ps tag row ledger = .ok (.ok bundles, after) ∧
      Chain tag row ps ledger bundles after := by
  induction ps generalizing ledger with
  | nil => exact ⟨[], ledger, rfl, .nil ledger⟩
  | cons p ps ih =>
    obtain ⟨hp, hps⟩ := List.forall_mem_cons.1 hps
    obtain ⟨hsucceeds, h⟩ := List.forall_mem_cons.1 h
    rw [rowBundles_cons, RowBuild.append_apply]
    cases hbound : p.creator? tag with
    | none =>
      obtain ⟨bundles, after, hrun, hchain⟩ := ih hps h ledger
      refine ⟨bundles, after, ?_, .idle hbound hchain⟩
      rw [bundles_apply_none hbound]
      dsimp only
      rw [hrun]
      rfl
    | some bound =>
      obtain ⟨_, _, _, hmakes⟩ := hsucceeds bound hbound
      obtain ⟨lexemes, between, hmakes⟩ :=
        hmakes.of_ledger (creator?_isInitialised hp hbound) ledger
      obtain ⟨bundles, after, hrun, hchain⟩ := ih hps h between
      refine ⟨_, after, ?_, .busy hbound hmakes hchain⟩
      rw [bundles_apply_some hbound, lexemes_eq_ok_iff.2 hmakes]
      dsimp only [Except.map]
      rw [hrun]

/-- The first provider that fails tells why the row has no bundles. -/
theorem rowBundles_of_fails {before rest : List Provider} {p : Provider} {tag : String} {row : Row}
    {failure : RowFailure} (hps : ∀ q ∈ before ++ p :: rest, q.IsReady)
    (h : ∀ q ∈ before, q.Succeeds tag row) (hfails : p.Fails tag row failure) (ledger : Ledger) :
    ∃ after, rowBundles (before ++ p :: rest) tag row ledger = .ok (.error failure, after) := by
  obtain ⟨hbefore, hps⟩ := List.forall_mem_append.1 hps
  obtain ⟨bundles, between, hrun, -⟩ := rowBundles_of_succeeds hbefore h ledger
  obtain ⟨bound, hbound, _, _, hrefuses⟩ := hfails
  obtain ⟨after, hrefuses⟩ :=
    hrefuses.of_ledger (creator?_isInitialised (hps p List.mem_cons_self) hbound) between
  refine ⟨after, ?_⟩
  rw [rowBundles_append, RowBuild.append_apply, hrun, rowBundles_cons]
  dsimp only
  rw [RowBuild.append_apply, bundles_apply_some hbound, lexemes_eq_error_iff.2 hrefuses]
  rfl

section

variable {ps : List Provider} {posColumn : Nat} {row : Row} {first : Int64} {r : RowResult}

/-- Nothing but a warning is raised before a provider fails. -/
theorem severity_of_rowBundles (hps : ∀ p ∈ ps, p.IsReady) {tag : String}
    {o : Except RowFailure (List Bundle)} {after : Ledger}
    (h : rowBundles ps tag row ⟨⟨first, 0⟩, []⟩ = .ok (o, after)) :
    ∀ d ∈ after.diagnostics, d.severity = .warning := by
  obtain ⟨s, -, hs⟩ := rowBundles_sketches hps tag row
  obtain ⟨-, rfl⟩ := Prod.mk.inj (Except.ok.inj ((hs row rfl _).symm.trans h))
  exact List.forall_mem_map.2 fun _ _ => rfl

theorem buildRow_of_succeeds (hps : ∀ p ∈ ps, p.IsReady)
    (h : ∀ p ∈ ps, p.Succeeds (row.cell posColumn) row)
    (hr : buildRow ps posColumn row first = .ok r) :
    ∃ bundles after, r.bundles = some bundles ∧
      Chain (row.cell posColumn) row ps ⟨⟨first, 0⟩, []⟩ bundles after ∧
      ∀ d ∈ r.diagnostics, d.severity = .warning := by
  obtain ⟨bundles, after, hrun, hchain⟩ := rowBundles_of_succeeds hps h ⟨⟨first, 0⟩, []⟩
  rw [buildRow, hrun] at hr
  obtain rfl := Except.ok.inj hr
  exact ⟨bundles, after, rfl, hchain, severity_of_rowBundles hps hrun⟩

theorem buildRow_of_fails {before after : List Provider} {p : Provider} {failure : RowFailure}
    (hps : ∀ q ∈ before ++ p :: after, q.IsReady)
    (h : ∀ q ∈ before, q.Succeeds (row.cell posColumn) row)
    (hfails : p.Fails (row.cell posColumn) row failure)
    (hr : buildRow (before ++ p :: after) posColumn row first = .ok r) :
    r.bundles = none ∧ ∃ warnings, r.diagnostics = warnings ++ [failure.diagnostic row.line] ∧
      ∀ d ∈ warnings, d.severity = .warning := by
  obtain ⟨ledger, hrun⟩ := rowBundles_of_fails hps h hfails ⟨⟨first, 0⟩, []⟩
  rw [buildRow, hrun] at hr
  obtain rfl := Except.ok.inj hr
  exact ⟨rfl, ledger.diagnostics, rfl, severity_of_rowBundles hps hrun⟩

end

end Wordbook
