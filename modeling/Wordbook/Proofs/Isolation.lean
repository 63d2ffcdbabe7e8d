import Wordbook.Proofs.Bundle

/-!
# Isolation of rows

Two runs with one configuration, each with a source of its own, say the same
about lines with the same text and make the same of them, but for the line and a
number that is added to all ids.

* `Importer.Run.isolated`: what a line comes to hangs on no other line.
-/

namespace Wordbook

namespace RowResult

/-- The ids of a row and of the same row elsewhere stay at the same distance if they do not wrap. -/
theorem exists_distance {r : RowResult} {d : Int64} {line : Nat} (hr : r.ids.Fits)
    (hmoved : (r.moved d line).ids.Fits) :
    ∃ e : Int, ∀ id ∈ r.ids.members, (id + d).toInt = id.toInt + e := by
  refine ⟨(r.ids.first + d).toInt - r.ids.first.toInt, fun id hid => ?_⟩
  obtain ⟨k, hk, rfl⟩ := List.mem_map.1 hid
  have hid := hr.toInt_sub (List.mem_range.1 hk)
  have hidmoved := hmoved.toInt_sub (List.mem_range.1 hk)
  rw [← moved_sub, hid]
  dsimp only [moved] at hidmoved
  omega

end RowResult

namespace LineOutcome

theorem row?_atLine (o : LineOutcome) (line : Nat) :
    (o.atLine line).row? = o.row?.map fun row => { row with line := line } := by
  cases o <;> rfl

theorem diagnostic?_atLine (o : LineOutcome) (line : Nat) :
    (o.atLine line).diagnostic? = o.diagnostic?.map (·.atLine line) := by
  cases o <;> rfl

end LineOutcome

namespace Importer

/-- What a line comes to hangs on its text alone: on no other line, and on nothing that has become
of another. -/
theorem Run.isolated {s : Setup} {encoding : Option String} {first : Int64} {a b : Source}
    {i j : Importer} (hkeep : ∀ row row' : Row, row.cells = row'.cells → s.keep row = s.keep row')
    (hi : Run s [a] i) (hidone : i.state = .done)
    (hj : Run { s with encoding := encoding, first := first } [b] j) (hjdone : j.state = .done)
    {k l : Nat} {text : List Char} (hk : (k, text) ∈ a.numberedLines)
    (hl : (l, text) ∈ b.numberedLines) (hkskip : k ∉ s.config.skipLines)
    (hlskip : l ∉ s.config.skipLines) :
    (i.diagnostics.forLine k).map (·.atLine l) = j.diagnostics.forLine l ∧
    ∃ d : Int64,
      (i.bundles.filter (·.line == k)).map (Bundle.moved d l) = j.bundles.filter (·.line == l) ∧
      ((s.ids a).Fits → (Setup.ids { s with encoding := encoding, first := first } b).Fits →
        ∃ e : Int, ∀ bundle ∈ i.bundles, bundle.line = k →
          ∀ id ∈ bundle.ids, (id + d).toInt = id.toInt + e) := by
  have hi := hi.done hidone
  have hj := hj.done hjdone
  have hread := Config.readLine_atLine hkeep hkskip hlskip text
  cases hrow : (s.config.readLine s.keep k text).row? with
  | none =>
    obtain ⟨hdiagnostics, hbundles⟩ := hi.of_row?_eq_none hk hrow
    obtain ⟨hdiagnostics', hbundles'⟩ := hj.of_row?_eq_none hl (by
      rw [hread, LineOutcome.row?_atLine, hrow]
      rfl)
    rw [hread, LineOutcome.diagnostic?_atLine] at hdiagnostics'
    rw [hdiagnostics, hdiagnostics', hbundles, hbundles']
    refine ⟨by cases (s.config.readLine s.keep k text).diagnostic? <;> rfl, 0, rfl,
      fun _ _ => ⟨0, fun b hb hline => ?_⟩⟩
    exact absurd (beq_iff_eq.2 hline) (List.filter_eq_nil_iff.1 hbundles b hb)
  | some row =>
    obtain rfl := Config.line_of_row? hrow
    have hrow' := LineOutcome.row?_eq_some_iff.1 hrow
    obtain ⟨r, hr⟩ := hi.exists_result (Setup.mem_rows hk hrow')
    rw [hrow'] at hread
    obtain ⟨r', hr'⟩ := hj.exists_result (Setup.mem_rows hl hread)
    obtain ⟨hdiagnostics, hbundles⟩ := hi.of_mem_trace hr
    obtain ⟨hdiagnostics', hbundles'⟩ := hj.of_mem_trace hr'
    obtain ⟨d, hd⟩ : ∃ d, r'.ids.first = r.ids.first + d :=
      ⟨r'.ids.first - r.ids.first, by rw [Int64.add_comm, Int64.sub_add_cancel]⟩
    have hbuild := hj.buildRow_eq hr'
    rw [hd] at hbuild
    obtain rfl := Except.ok.inj
      (hbuild.symm.trans (buildRow_moved hi.isReady (hi.buildRow_eq hr) d l))
    rw [hdiagnostics, hbundles]
    refine ⟨hdiagnostics'.symm, d, ?_, fun hfits hfits' => ?_⟩
    · rw [hbundles']
      show _ = (r.bundles.map _).getD []
      cases r.bundles <;> rfl
    · obtain ⟨e, he⟩ :=
        RowResult.exists_distance (hi.fits_of_mem hfits hr) (hj.fits_of_mem hfits' hr')
      refine ⟨e, fun bundle hbundle hline id hid => he id ?_⟩
      have hmem : bundle ∈ r.bundles.getD [] :=
        hbundles ▸ List.mem_filter.2 ⟨hbundle, beq_iff_eq.2 hline⟩
      obtain ⟨bundles, hsome, hmem⟩ := RowResult.mem_getD_bundles_iff.1 hmem
      exact mem_members_of_buildRow hi.isReady (hi.buildRow_eq hr) hsome hmem hid

/-- The third line of one source and the second one of another. -/
theorem Run.isolated_third :
    ∃ i j, Run (.sample .misc) [sampleSource] i ∧
      Run { Setup.sample .misc with encoding := some "ascii", first := -5 }
        [⟨"\nx\td", "ascii"⟩] j ∧
      (i.diagnostics.forLine 3).map (·.atLine 2) = j.diagnostics.forLine 2 ∧
      ∃ d : Int64, (i.bundles.filter (·.line == 3)).map (Bundle.moved d 2) =
          j.bundles.filter (·.line == 2) ∧
        ∃ e : Int, ∀ bundle ∈ i.bundles, bundle.line = 3 →
          ∀ id ∈ bundle.ids, (id + d).toInt = id.toInt + e := by
  obtain ⟨i, hi, hidone⟩ := exists_run_sample
  obtain ⟨j, hj, hjdone⟩ := Setup.exists_run
    { Setup.sample .misc with encoding := some "ascii", first := -5 } ⟨"\nx\td", "ascii"⟩
    (Text.writeUtf8 "\nx\td".toList) rfl (by decide)
  obtain ⟨hdiagnostics, d, hbundles, hids⟩ := Run.isolated (fun _ _ _ => rfl) hi hidone hj hjdone
    (show (3, "x\td".toList) ∈ _ by decide) (show (2, "x\td".toList) ∈ _ by decide)
    (by decide) (by decide)
  exact ⟨i, j, hi, hj, hdiagnostics, d, hbundles, hids (by decide +kernel) (by decide +kernel)⟩

end Importer

end Wordbook
