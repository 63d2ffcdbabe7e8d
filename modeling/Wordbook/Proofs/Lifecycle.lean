import Mathlib.Logic.Relation
import Wordbook.Proofs.Rows

/-!
# The states of a run

A run goes from one state to the next, and no step can break it: a step that
comes too early or too late is refused and changes nothing, and one that fails
ends the run and keeps what the run has made so far.

* `Importer.Outcome`: what a step does to any importer (`Importer.step_outcome`);
* `Importer.Run.exists_step`: on a run, every step comes to an end;
* `Importer.Run.lifecycle`: what holds of a run after any steps.
-/

namespace Wordbook

namespace ImportState

/-- The moves of a run: on to the next state, or to an early end. -/
inductive Next : ImportState → ImportState → Prop where
  | initialise : Next .uninitialised .initialised
  | read : Next .initialised .reading
  | build : Next .reading .done
  | abort_initialise : Next .uninitialised .aborted
  | abort_read : Next .initialised .aborted

end ImportState

namespace Importer

namespace Step

/-- The name of a step in errors. The first thing that `run` does is to initialise. -/
def name : Step → String
  | initialise | run .. => "initialise"
  | read .. | readBytes .. => "read"
  | build => "build"

/-- The state that a step belongs to. -/
def expected : Step → ImportState
  | initialise | run .. => .uninitialised
  | read .. | readBytes .. => .initialised
  | build => .reading

/-- The state that a step leads to. -/
def target : Step → ImportState
  | initialise => .initialised
  | read .. | readBytes .. => .reading
  | build | run .. => .done

end Step

/-- What a step does, by its result. -/
inductive Outcome (i : Importer) (now : String) (step : Step) :
    Except ImportError Unit → Importer → Prop where
  /-- The step is called in the wrong state. -/
  | refused : i.state ≠ step.expected →
    Outcome i now step (.error (.wrongState step.name step.expected i.state)) i
  /-- The step fails. All that has been made up to it is kept as it is. -/
  | aborted {error providers path} : i.state = step.expected → step ≠ .build →
    Outcome i now step (.error error) { i with
      state := .aborted, providers := providers, source := path, finishedAt := some now }
  | completed {j} : i.state = step.expected → j.state = step.target → Outcome i now step (.ok ()) j

variable {i j : Importer} {now : String} {result : Except ImportError Unit}

theorem initialise_cases (h : i.initialise now = (result, j)) :
    (i.state = .uninitialised ∧ result = .ok () ∧
      ∃ providers, j = { i with providers := providers, state := .initialised }) ∨
    ∃ e, result = .error e ∧ Outcome i now .initialise (.error e) j := by
  rcases inState_cases h with ⟨hstate, hgo⟩ | ⟨hstate, rfl, rfl⟩
  · cases hresolve : i.config.resolve i.reference with
    | ok providers =>
      rw [hresolve] at hgo
      obtain ⟨rfl, rfl⟩ := Prod.mk.inj hgo
      exact .inl ⟨hstate, rfl, providers, rfl⟩
    | error e =>
      rw [hresolve] at hgo
      obtain ⟨rfl, rfl⟩ := Prod.mk.inj hgo
      exact .inr ⟨_, rfl, .aborted hstate nofun⟩
  · exact .inr ⟨_, rfl, .refused hstate⟩

theorem initialise_outcome (h : i.initialise now = (result, j)) :
    Outcome i now .initialise result j := by
  rcases initialise_cases h with ⟨hstate, rfl, providers, rfl⟩ | ⟨e, rfl, houtcome⟩
  · exact .completed hstate rfl
  · exact houtcome

theorem read_outcome {path : String} {file : FileResult} (h : i.read now path file = (result, j)) :
    Outcome i now (.read path file) result j := by
  rcases inState_cases h with ⟨hstate, hgo⟩ | ⟨hstate, rfl, rfl⟩
  · rcases readSource_cases hgo with ⟨-, -, -, -, rfl, rfl⟩ | ⟨e, rfl, rfl⟩
    · exact .completed hstate rfl
    · exact .aborted hstate nofun
  · exact .refused hstate

theorem readBytes_outcome {bytes : List UInt8} (h : i.readBytes now bytes = (result, j)) :
    Outcome i now (.readBytes bytes) result j := by
  rcases inState_cases h with ⟨hstate, hgo⟩ | ⟨hstate, rfl, rfl⟩
  · rcases readSource_cases hgo with ⟨-, -, -, -, rfl, rfl⟩ | ⟨e, rfl, rfl⟩
    · exact .completed hstate rfl
    · exact .aborted hstate nofun
  · exact .refused hstate

theorem build_outcome (h : i.build now = .ok (result, j)) : Outcome i now .build result j := by
  unfold build at h
  split at h
  · obtain ⟨results, -, heq⟩ := bind_eq_ok_iff.1 h
    obtain ⟨rfl, rfl⟩ := Prod.mk.inj (Except.ok.inj heq)
    exact .completed ‹_› rfl
  · obtain ⟨rfl, rfl⟩ := Prod.mk.inj (Except.ok.inj h)
    exact .refused ‹_›

/-- Where the first step is not refused, neither are the others. -/
theorem run_outcome {path : String} {file : FileResult}
    (h : i.run now path file = .ok (result, j)) : Outcome i now (.run path file) result j := by
  unfold run at h
  rcases hinitialise : i.initialise now with ⟨first, i₁⟩
  rw [hinitialise] at h
  rcases initialise_cases hinitialise with ⟨hstate, rfl, providers, rfl⟩ | ⟨e, rfl, houtcome⟩
  · dsimp only at h
    rcases hread : read { i with providers := providers, state := .initialised } now path file
      with ⟨second, i₂⟩
    rw [hread] at h
    cases read_outcome hread with
    | refused hne => exact absurd rfl hne
    | aborted =>
      obtain ⟨rfl, rfl⟩ := Prod.mk.inj (Except.ok.inj h)
      exact .aborted hstate nofun
    | completed _ hreading =>
      cases build_outcome h with
      | refused hne => exact absurd hreading hne
      | aborted _ hne => exact absurd rfl hne
      | completed _ hdone => exact .completed hstate hdone
  · obtain ⟨rfl, rfl⟩ := Prod.mk.inj (Except.ok.inj h)
    cases houtcome with
    | refused hstate => exact .refused hstate
    | aborted hstate => exact .aborted hstate nofun

theorem step_outcome {step : Step} (h : i.step now step = .ok (result, j)) :
    Outcome i now step result j := by
  cases step with
  | initialise => exact initialise_outcome (Except.ok.inj h)
  | read => exact read_outcome (Except.ok.inj h)
  | readBytes => exact readBytes_outcome (Except.ok.inj h)
  | build => exact build_outcome h
  | run => exact run_outcome h

namespace Outcome

variable {step : Step}

/-- A step moves a run along, and never back. -/
theorem path (h : Outcome i now step result j) :
    Relation.ReflTransGen ImportState.Next i.state j.state := by
  cases h with
  | refused => exact .refl
  | aborted hstate hne =>
    rw [hstate]
    cases step with
    | initialise | run => exact .single .abort_initialise
    | read | readBytes => exact .single .abort_read
    | build => exact absurd rfl hne
  | completed hstate htarget =>
    rw [hstate, htarget]
    cases step with
    | initialise => exact .single .initialise
    | read | readBytes => exact .single .read
    | build => exact .single .build
    | run => exact ((Relation.ReflTransGen.single .initialise).tail .read).tail .build

/-- A run that is over does not change any more. -/
theorem eq_of_isFinished (h : Outcome i now step result j) (hi : i.state.isFinished) : j = i := by
  have hne : i.state ≠ step.expected := by
    intro hstate
    rw [hstate] at hi
    cases step <;> exact Bool.noConfusion hi
  cases h with
  | refused => rfl
  | aborted hstate | completed hstate => exact absurd hstate hne

end Outcome

/-! ## Runs -/

/-- What holds of a run between its steps. -/
structure IsConsistent (i : Importer) : Prop where
  /-- A run is seen before its rows are built and after that, but not while they are. -/
  state_ne : i.state ≠ .building
  finishedAt : i.finishedAt.isSome = i.state.isFinished
  rows : i.rows ≠ [] → i.state = .reading
  bundles : i.bundles ≠ [] → i.state = .done

variable {s : Setup} {sources : List Source}

theorem Stage.isConsistent (h : Stage s sources i) : i.IsConsistent := by
  cases h with
  | uninitialised | initialised =>
    exact ⟨nofun, rfl, fun h => absurd rfl h, fun h => absurd rfl h⟩
  | reading => exact ⟨nofun, rfl, fun _ => rfl, fun h => absurd rfl h⟩
  | done => exact ⟨nofun, rfl, fun h => absurd rfl h, fun _ => rfl⟩
  | aborted => exact ⟨nofun, rfl, fun h => absurd rfl h, fun h => absurd rfl h⟩

/-- The creators of a run are initialised before they are used. -/
theorem Stage.exists_build (h : Stage s sources i) (now : String) :
    ∃ result j, i.build now = .ok (result, j) := by
  unfold Importer.build
  split
  · rename_i hstate
    cases h with
    | @reading source path hresolve =>
      obtain ⟨results, hresults⟩ := exists_buildRows (Config.isReady_of_resolve hresolve)
        s.config.posColumn (s.rows source) s.first
      show ∃ result j, (buildRows s.providers s.config.posColumn (s.rows source) s.first >>= _) = _
      rw [hresults]
      exact ⟨_, _, rfl⟩
    | uninitialised | initialised | done | aborted => nomatch hstate
  · exact ⟨_, _, rfl⟩

theorem Stage.exists_run (h : Stage s sources i) (now path : String) (file : FileResult) :
    ∃ result j, i.run now path file = .ok (result, j) := by
  unfold Importer.run
  rcases hinitialise : i.initialise now with ⟨_ | _, i₁⟩
  · exact ⟨_, _, rfl⟩
  · dsimp only
    rcases hread : i₁.read now path file with ⟨_ | _, i₂⟩
    · exact ⟨_, _, rfl⟩
    · exact ((h.initialise hinitialise).read hread).1.exists_build now

/-- On a run, every step comes to an end. -/
theorem Run.exists_step (h : Run s sources i) (now : String) (step : Step) :
    ∃ result j, i.step now step = .ok (result, j) := by
  cases step with
  | initialise | read | readBytes => exact ⟨_, _, rfl⟩
  | build => exact h.stage.exists_build now
  | run path file => exact h.stage.exists_run now path file

/-- After any steps the run is consistent, and the next step is refused, fails or leads on. -/
theorem Run.lifecycle (h : Run s sources i) :
    i.IsConsistent ∧ ∀ now step, ∃ result j, i.step now step = .ok (result, j) ∧
      Outcome i now step result j ∧
      Relation.ReflTransGen ImportState.Next i.state j.state ∧
      (i.state.isFinished → j = i) := by
  refine ⟨h.stage.isConsistent, fun now step => ?_⟩
  obtain ⟨result, j, hstep⟩ := h.exists_step now step
  have houtcome := step_outcome hstep
  exact ⟨result, j, hstep, houtcome, houtcome.path, houtcome.eq_of_isFinished⟩

/-- A language with one creator, for a part of speech that has no slots. -/
def Setup.unslotted : Setup := { Setup.sample .misc with reference := .ofConfig ⟨[], []⟩ }

/-- A run that has ended at once cannot be started again. -/
theorem Run.lifecycle_unslotted :
    ∃ i, Run .unslotted [] i ∧ i.state = .aborted ∧ i.IsConsistent ∧
      i.step "" (.run "" (.ok [])) =
        .ok (.error (.wrongState "initialise" .uninitialised .aborted), i) := by
  have hstep : Setup.unslotted.importer.step "" .initialise =
      .ok (Setup.unslotted.importer.abort "" (.setup (.noSlots "x"))) :=
    congrArg Except.ok (Setup.initialise_of_error rfl)
  have hrun : Run .unslotted [] _ := Run.begin.step hstep
  obtain ⟨hconsistent, hsteps⟩ := Run.lifecycle hrun
  obtain ⟨result, j, hagain, houtcome, -⟩ := hsteps "" (.run "" (.ok []))
  refine ⟨_, hrun, rfl, hconsistent, ?_⟩
  rw [hagain]
  cases houtcome with
  | refused => rfl
  | aborted hstate | completed hstate => nomatch hstate

end Importer

end Wordbook
