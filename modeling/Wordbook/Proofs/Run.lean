import Mathlib.Algebra.GroupWithZero.Nat
import Wordbook.Importer
import Wordbook.Proofs.Except

/-!
# Runs

A run takes any steps, at any times and in any order. However it got there, a
run that is done has read one source and built its rows.

* `Importer.Run`: the steps of a run, with the sources that they read;
* `Importer.Stage`: what a run is like in each state (`Run.stage`);
* `Importer.Run.done`: what has become of a source.
-/

namespace Wordbook

namespace Importer

/-- What a run is set up with. -/
structure Setup where
  config : Config
  reference : Reference
  codecs : Codecs
  encoding : Option String
  keep : Row → Bool
  /-- The id of the first variant. -/
  first : Int64

/-- A run that has not begun. -/
def Setup.importer (s : Setup) : Importer :=
  { new s.codecs s.config with
    reference := s.reference, encoding := s.encoding, keep := s.keep, nextId := s.first }

/-- The source that a step reads if it does not fail. -/
def Step.source? (s : Setup) : Step → Option Source
  | .read _ file | .run _ file =>
    file.toOption.bind fun bytes => (Source.decode s.codecs bytes s.encoding).toOption
  | .readBytes bytes => (Source.decode s.codecs bytes s.encoding).toOption
  | .initialise | .build => none

/-- The sources that a step has read, given its result. -/
def Step.sources (s : Setup) (step : Step) : Except ImportError Unit → List Source
  | .ok _ => (step.source? s).toList
  | .error _ => []

/-- Any steps from the beginning, with the sources that they have read. -/
inductive Run (s : Setup) : List Source → Importer → Prop where
  | begin : Run s [] s.importer
  | step {sources i now step result j} :
    Run s sources i → i.step now step = .ok (result, j) →
    Run s (sources ++ step.sources s result) j

/-! ## Stages -/

namespace Setup

variable (s : Setup)

def providers : List Provider := (s.config.resolve s.reference).toOption.getD []

/-- The rows that are accepted of a source. -/
def rows (source : Source) : List Row :=
  (s.config.readLines s.keep source).filterMap (·.row?)

/-- The diagnostics about the lines of a source that give no rows. -/
def rejections (source : Source) : List Diagnostic :=
  (s.config.readLines s.keep source).filterMap (·.diagnostic?)

/-- What the rows of a source come to. -/
def results (source : Source) : List RowResult :=
  (buildRows s.providers s.config.posColumn (s.rows source) s.first).toOption.getD []

/-- The ids that are drawn for a source. -/
def ids (source : Source) : IdSequence :=
  ⟨s.first, ((s.results source).map (·.ids.drawn)).sum⟩

/-- A run that is initialised. -/
def initialised (path : Option String) : Importer :=
  { s.importer with state := .initialised, providers := s.providers, source := path }

end Setup

/-- What a run is like in each state. -/
inductive Stage (s : Setup) : List Source → Importer → Prop where
  | uninitialised : Stage s [] s.importer
  | initialised :
    s.config.resolve s.reference = .ok s.providers → Stage s [] (s.initialised none)
  | reading {source path} :
    s.config.resolve s.reference = .ok s.providers →
    Stage s [source] ((s.initialised path).accept source)
  | done {source path now} :
    s.config.resolve s.reference = .ok s.providers →
    buildRows s.providers s.config.posColumn (s.rows source) s.first = .ok (s.results source) →
    Stage s [source] (finish
      { (s.initialised path).accept source with state := .building, rows := [] } now
      (s.results source))
  | aborted {providers path now} :
    Stage s [] { s.importer with
      state := .aborted, providers := providers, source := path, finishedAt := some now }

theorem Setup.providers_eq {s : Setup} {providers : List Provider}
    (h : s.config.resolve s.reference = .ok providers) : s.providers = providers := by
  rw [Setup.providers, h]
  rfl

theorem Setup.results_eq {s : Setup} {source : Source} {results : List RowResult}
    (h : buildRows s.providers s.config.posColumn (s.rows source) s.first = .ok results) :
    s.results source = results := by
  rw [Setup.results, h]
  rfl

theorem Setup.initialise_of_ok {s : Setup} {now : String}
    (h : s.config.resolve s.reference = .ok s.providers) :
    s.importer.initialise now = (.ok (), s.initialised none) := by
  rw [Importer.initialise, inState, if_pos (by rfl), show s.importer.config = s.config from rfl,
    show s.importer.reference = s.reference from rfl, h]
  rfl

theorem Setup.initialise_of_error {s : Setup} {now : String} {e : SetupError}
    (h : s.config.resolve s.reference = .error e) :
    s.importer.initialise now = s.importer.abort now (.setup e) := by
  rw [Importer.initialise, inState, if_pos (by rfl), show s.importer.config = s.config from rfl,
    show s.importer.reference = s.reference from rfl, h]

theorem readSource_of_ok {i : Importer} {now : String} {bytes : List UInt8} {source : Source}
    (h : Source.decode i.codecs bytes i.encoding = .ok source) :
    i.readSource now (.ok bytes) = (.ok (), i.accept source) := by
  rw [readSource, Except.bind, h]

/-- A source is accepted, or the run ends. -/
theorem readSource_cases {i j : Importer} {now : String}
    {bytes : Except SourceError (List UInt8)} {result : Except ImportError Unit}
    (h : i.readSource now bytes = (result, j)) :
    (∃ bs source, bytes = .ok bs ∧ Source.decode i.codecs bs i.encoding = .ok source ∧
      result = .ok () ∧ j = i.accept source) ∨
    ∃ e, result = .error e ∧ j = { i with state := .aborted, finishedAt := some now } := by
  unfold readSource at h
  cases hsource : bytes.bind fun bs => Source.decode i.codecs bs i.encoding with
  | ok source =>
    rw [hsource] at h
    obtain ⟨rfl, rfl⟩ := Prod.mk.inj h
    obtain ⟨bs, hbs, hdecode⟩ := bind_eq_ok_iff.1 hsource
    exact .inl ⟨bs, source, hbs, hdecode, rfl, rfl⟩
  | error e =>
    rw [hsource] at h
    obtain ⟨rfl, rfl⟩ := Prod.mk.inj h
    exact .inr ⟨_, rfl, rfl⟩

/-- A step in the wrong state fails and changes nothing. -/
theorem inState_cases {i j : Importer} {name : String} {expected : ImportState}
    {go : Importer → Result} {result : Except ImportError Unit}
    (h : i.inState name expected go = (result, j)) :
    i.state = expected ∧ go i = (result, j) ∨
      i.state ≠ expected ∧ result = .error (.wrongState name expected i.state) ∧ j = i := by
  unfold inState at h
  split at h
  · exact .inl ⟨‹_›, h⟩
  · obtain ⟨rfl, rfl⟩ := Prod.mk.inj h
    exact .inr ⟨‹_›, rfl, rfl⟩

namespace Stage

variable {s : Setup} {sources : List Source} {i j : Importer} {now : String}
  {result : Except ImportError Unit}

theorem initialise (h : Stage s sources i) (hstep : i.initialise now = (result, j)) :
    Stage s sources j := by
  rcases inState_cases hstep with ⟨hstate, -⟩ | ⟨-, -, rfl⟩
  · cases h with
    | uninitialised =>
      cases hresolve : s.config.resolve s.reference with
      | ok providers =>
        obtain rfl := Setup.providers_eq hresolve
        rw [Setup.initialise_of_ok hresolve] at hstep
        obtain ⟨-, rfl⟩ := Prod.mk.inj hstep
        exact .initialised hresolve
      | error error =>
        rw [Setup.initialise_of_error hresolve] at hstep
        obtain ⟨-, rfl⟩ := Prod.mk.inj hstep
        exact .aborted
    | initialised | reading | done | aborted => cases hstate
  · exact h

theorem readSource (path : Option String) {bytes : Except SourceError (List UInt8)}
    (h : s.config.resolve s.reference = .ok s.providers)
    (hstep : (s.initialised path).readSource now bytes = (result, j)) :
    (result = .ok () ∧ j.state = .reading ∧ ∃ bs source, bytes = .ok bs ∧
      Source.decode s.codecs bs s.encoding = .ok source ∧ Stage s [source] j) ∨
    (∃ e, result = .error e) ∧ Stage s [] j := by
  rcases readSource_cases hstep with ⟨bs, source, hbs, hdecode, rfl, rfl⟩ | ⟨e, rfl, rfl⟩
  · exact .inl ⟨rfl, rfl, bs, source, hbs, hdecode, .reading h⟩
  · exact .inr ⟨⟨_, rfl⟩, .aborted⟩

theorem read {path : String} {file : FileResult} (h : Stage s sources i)
    (hstep : i.read now path file = (result, j)) :
    Stage s (sources ++ (Step.read path file).sources s result) j ∧
      (result = .ok () → j.state = .reading) := by
  rcases inState_cases hstep with ⟨hstate, hgo⟩ | ⟨-, rfl, rfl⟩
  · cases h with
    | initialised h =>
      rcases readSource (some path) h hgo with
        ⟨rfl, hstate, bs, source, hbs, hdecode, hstage⟩ | ⟨⟨e, rfl⟩, hstage⟩
      · cases file with
        | error e => nomatch hbs
        | ok bytes =>
          obtain rfl := Except.ok.inj hbs
          refine ⟨?_, fun _ => hstate⟩
          rw [Step.sources, Step.source?, Except.toOption, Option.bind_some, hdecode]
          exact hstage
      · exact ⟨hstage, nofun⟩
    | uninitialised | reading | done | aborted => nomatch hstate
  · exact ⟨by rwa [Step.sources, List.append_nil], nofun⟩

theorem readBytes {bytes : List UInt8} (h : Stage s sources i)
    (hstep : i.readBytes now bytes = (result, j)) :
    Stage s (sources ++ (Step.readBytes bytes).sources s result) j := by
  rcases inState_cases hstep with ⟨hstate, hgo⟩ | ⟨-, rfl, rfl⟩
  · cases h with
    | initialised h =>
      rcases readSource none h hgo with
        ⟨rfl, -, bs, source, hbs, hdecode, hstage⟩ | ⟨⟨e, rfl⟩, hstage⟩
      · obtain rfl := Except.ok.inj hbs
        rw [Step.sources, Step.source?, hdecode]
        exact hstage
      · exact hstage
    | uninitialised | reading | done | aborted => nomatch hstate
  · rwa [Step.sources, List.append_nil]

theorem build (h : Stage s sources i) (hstep : i.build now = .ok (result, j)) :
    Stage s sources j ∧ (i.state = .reading → result = .ok ()) := by
  unfold Importer.build at hstep
  split at hstep
  · rename_i hstate
    obtain ⟨results, hbuild, heq⟩ := bind_eq_ok_iff.1 hstep
    obtain ⟨rfl, rfl⟩ := Prod.mk.inj (Except.ok.inj heq)
    refine ⟨?_, fun _ => rfl⟩
    cases h with
    | reading h =>
      obtain rfl := Setup.results_eq hbuild
      exact .done h hbuild
    | uninitialised | initialised | done | aborted => nomatch hstate
  · rename_i hstate
    obtain ⟨rfl, rfl⟩ := Prod.mk.inj (Except.ok.inj hstep)
    exact ⟨h, fun h => absurd h hstate⟩

theorem run {path : String} {file : FileResult} (h : Stage s sources i)
    (hstep : i.run now path file = .ok (result, j)) :
    Stage s (sources ++ (Step.run path file).sources s result) j := by
  unfold Importer.run at hstep
  rcases hinitialise : i.initialise now with ⟨_ | _, i₁⟩
  · rw [hinitialise] at hstep
    obtain ⟨rfl, rfl⟩ := Prod.mk.inj (Except.ok.inj hstep)
    rw [Step.sources, List.append_nil]
    exact h.initialise hinitialise
  · rw [hinitialise] at hstep
    dsimp only at hstep
    rcases hread : i₁.read now path file with ⟨_ | _, i₂⟩
    · rw [hread] at hstep
      obtain ⟨rfl, rfl⟩ := Prod.mk.inj (Except.ok.inj hstep)
      exact ((h.initialise hinitialise).read hread).1
    · rw [hread] at hstep
      obtain ⟨hstage, hreading⟩ := (h.initialise hinitialise).read hread
      obtain ⟨hstage, hok⟩ := hstage.build hstep
      obtain rfl := hok (hreading rfl)
      exact hstage

end Stage

theorem Run.stage {s : Setup} {sources : List Source} {i : Importer} (h : Run s sources i) :
    Stage s sources i := by
  induction h with
  | begin => exact .uninitialised
  | @step sources i now step result j _ hstep ih =>
    cases step with
    | initialise =>
      have hstage := ih.initialise (Except.ok.inj hstep)
      cases result <;> simpa [Step.sources, Step.source?] using hstage
    | read => exact (ih.read (Except.ok.inj hstep)).1
    | readBytes => exact ih.readBytes (Except.ok.inj hstep)
    | build =>
      have hstage := (ih.build hstep).1
      cases result <;> simpa [Step.sources, Step.source?] using hstage
    | run => exact ih.run hstep

/-- What a run has made of its source when it is done. -/
structure Done (s : Setup) (source : Source) (i : Importer) : Prop where
  resolve_eq : s.config.resolve s.reference = .ok s.providers
  buildRows_eq :
    buildRows s.providers s.config.posColumn (s.rows source) s.first = .ok (s.results source)
  providers_eq : i.providers = s.providers
  bundles_eq : i.bundles = (s.results source).flatMap fun r => r.bundles.getD []
  diagnostics_eq : i.diagnostics.entries =
    s.rejections source ++ (s.results source).flatMap (·.diagnostics)

theorem Run.exists_source {s : Setup} {sources : List Source} {i : Importer} (h : Run s sources i)
    (hdone : i.state = .done) : ∃ source, sources = [source] := by
  cases h.stage with
  | @done source => exact ⟨source, rfl⟩
  | uninitialised | initialised | reading | aborted => nomatch hdone

theorem Stage.toDone {s : Setup} {source : Source} {i : Importer} (h : Stage s [source] i)
    (hdone : i.state = .done) : Done s source i := by
  cases h with
  | done hresolve hbuild => exact ⟨hresolve, hbuild, rfl, List.nil_append _, rfl⟩
  | reading => nomatch hdone

theorem Run.done {s : Setup} {source : Source} {i : Importer} (h : Run s [source] i)
    (hdone : i.state = .done) : Done s source i :=
  h.stage.toDone hdone

end Importer

end Wordbook
