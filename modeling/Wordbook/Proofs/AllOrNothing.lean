import Wordbook.Proofs.Bundle

/-!
# Rows that are made as a whole

A row has the bundles of all providers, or those of none and an error that names
the first provider to fail.

* `Importer.Completes`, `Importer.Fails`: what a run says of a row of either kind;
* `Importer.Run.all_or_nothing`: every row that is accepted is of one of them.
-/

namespace Wordbook

namespace Importer

variable (i : Importer) (tag : String) (row : Row)

/-- All providers succeed on a row. The run has their bundles in one piece, and no error. -/
structure Completes : Prop where
  succeeds : ∀ p ∈ i.providers, p.Succeeds tag row
  bundles : ∃ ledger bundles after, Provider.Chain tag row i.providers ledger bundles after ∧
    i.bundles.filter (·.line == row.line) = bundles ∧ bundles <:+: i.bundles ∧
    ∀ b ∈ bundles, b.variants ≠ []
  no_error : ∀ d ∈ i.diagnostics.forLine row.line, d.severity ≠ .error

/-- Some provider fails on a row. The run has no bundles of it, and the error of the first one. -/
structure Fails : Prop where
  failure : ∃ before p after failure, i.providers = before ++ p :: after ∧
    (∀ q ∈ before, q.Succeeds tag row) ∧ p.Fails tag row failure ∧
    (i.diagnostics.forLine row.line).filter (·.severity == .error) =
      [failure.diagnostic row.line]
  no_bundles : ∀ b ∈ i.bundles, b.line ≠ row.line

variable {i tag row} {s : Setup} {source : Source}

theorem Completes.not_fails (h : i.Completes tag row) : ¬i.Fails tag row := by
  rintro ⟨⟨_, _, _, failure, -, -, -, herror⟩, -⟩
  have hmem : failure.diagnostic row.line ∈
      (i.diagnostics.forLine row.line).filter (·.severity == .error) := by
    rw [herror]
    exact List.mem_singleton_self _
  exact h.no_error _ (List.mem_filter.1 hmem).1 rfl

namespace Done

/-- The bundles of a row stand together. -/
theorem infix_of_mem_trace (h : Done s source i) {r : RowResult}
    (hr : (row, r) ∈ s.trace source) : r.bundles.getD [] <:+: i.bundles := by
  obtain ⟨before, after, htrace⟩ := List.append_of_mem hr
  rw [h.bundles_eq_trace, htrace, List.flatMap_append, List.flatMap_cons, ← List.append_assoc]
  exact List.infix_append ..

theorem completes_or_fails (h : Done s source i) (hrow : row ∈ s.rows source) :
    i.Completes (row.cell s.config.posColumn) row ∨ i.Fails (row.cell s.config.posColumn) row := by
  obtain ⟨r, hr⟩ := h.exists_result hrow
  obtain ⟨hdiagnostics, hbundles⟩ := h.of_mem_trace hr
  have hbuild := h.buildRow_eq hr
  rcases Provider.succeed_or_first_fails h.isReady (row.cell s.config.posColumn) row with
    hsucceed | ⟨before, p, after, failure, hps, hbefore, hfails⟩
  · obtain ⟨bundles, after, hsome, hchain, hwarnings⟩ :=
      buildRow_of_succeeds h.isReady hsucceed hbuild
    have hinfix := h.infix_of_mem_trace hr
    rw [hsome] at hbundles hinfix
    refine .inl ⟨h.providers_eq ▸ hsucceed, ?_, fun d hd => ?_⟩
    · exact ⟨_, bundles, after, h.providers_eq ▸ hchain, hbundles, hinfix, fun b hb =>
        ((buildRow_linked h.isReady hbuild hsome).2 b hb).variants_ne_nil⟩
    · rw [hdiagnostics] at hd
      rw [hwarnings d hd]
      nofun
  · rw [hps] at hbuild
    obtain ⟨hnone, warnings, herror, hwarnings⟩ :=
      buildRow_of_fails (hps ▸ h.isReady) hbefore hfails hbuild
    refine .inr ⟨⟨before, p, after, failure, h.providers_eq.trans hps, hbefore, hfails, ?_⟩,
      fun b hb hline => ?_⟩
    · rw [hdiagnostics, herror, List.filter_append, List.filter_eq_nil_iff.2, List.nil_append]
      · rfl
      · intro d hd
        rw [hwarnings d hd]
        nofun
    · rw [hnone] at hbundles
      exact List.filter_eq_nil_iff.1 hbundles b hb (beq_iff_eq.2 hline)

theorem pairwise_line (h : Done s source i) : i.bundles.Pairwise (·.line ≤ ·.line) := by
  have hlines (t) (ht : t ∈ s.trace source) := (line_of_buildRow h.isReady (h.buildRow_eq ht)).2
  rw [h.bundles_eq_trace]
  exact pairwise_le_flatMap (·.1.line) Bundle.line h.pairwise_trace hlines

theorem exists_row_of_mem_bundles (h : Done s source i) {b : Bundle} (hb : b ∈ i.bundles) :
    ∃ row ∈ s.rows source, row.line = b.line := by
  obtain ⟨row, r, bundles, hr, hbundles, hb⟩ := h.mem_bundles_iff.1 hb
  have hline := (line_of_buildRow h.isReady (h.buildRow_eq hr)).2 b
    (RowResult.mem_getD_bundles_iff.2 ⟨bundles, hbundles, hb⟩)
  exact ⟨row, (List.of_mem_zip hr).1, hline.symm⟩

end Done

/-- Every row that is accepted is made as a whole or not at all, and no other line is made. -/
theorem Run.all_or_nothing (hrun : Run s [source] i) (hdone : i.state = .done) :
    (∀ row ∈ s.rows source,
      let tag := row.cell s.config.posColumn
      (i.Completes tag row ∨ i.Fails tag row) ∧ ¬(i.Completes tag row ∧ i.Fails tag row)) ∧
    i.bundles.Pairwise (·.line ≤ ·.line) ∧
    ∀ b ∈ i.bundles, ∃ row ∈ s.rows source, row.line = b.line := by
  have h := hrun.done hdone
  exact ⟨fun row hrow => ⟨h.completes_or_fails hrow, fun ⟨hc, hf⟩ => hc.not_fails hf⟩,
    h.pairwise_line, fun b hb => h.exists_row_of_mem_bundles hb⟩

theorem Run.all_or_nothing_second :
    ∃ i, Run (.sample .misc) [sampleSource] i ∧
      (i.Completes "x" ⟨2, ["x", "c~"]⟩ ∨ i.Fails "x" ⟨2, ["x", "c~"]⟩) ∧
      ¬(i.Completes "x" ⟨2, ["x", "c~"]⟩ ∧ i.Fails "x" ⟨2, ["x", "c~"]⟩) := by
  obtain ⟨i, hrun, hdone⟩ := exists_run_sample
  exact ⟨i, hrun, (Run.all_or_nothing hrun hdone).1 ⟨2, ["x", "c~"]⟩ (by decide)⟩

end Importer

end Wordbook
