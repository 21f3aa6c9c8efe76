import DesignLint.Proofs.Run.Isolation

/-! # What a rule finds in a document -/

namespace DesignLint.Runner

/-- A rule runs over a document, and these are its violations and its errors in every run. -/
structure Finds (r : Runner) (source : Document.Source) (configs : Keyed ConfigInput) (rule : Rule)
    (violations : List Violation) (errors : List RuleError) : Prop where
  alone : ∃ report, r.run source [rule] configs = .ok report ∧
    report.result.violations = violations ∧ report.result.errors = errors
  among : ∀ given report, rule ∈ given → r.run source given configs = .ok report →
    report.result.violationsFor rule.name = violations ∧
      report.result.errorsFor rule.name = errors

theorem finds_of_solo {r : Runner} {source : Document.Source} {configs : Keyed ConfigInput}
    {rule : Rule} {d : Document} {index : Index Layer} {o : RuleRun}
    (hd : Document.load source = .ok d) (hx : Index.build (some d.pages) = .ok index)
    (ho : r.solo index configs rule = .ok o) :
    r.Finds source configs rule o.own o.error?.toList where
  alone := by
    obtain ⟨report, hreport, hresult⟩ := runLoaded_singleton r _ configs hd hx ho
    refine ⟨report, hreport, ?_, ?_⟩
    · rw [hresult]
      simp [Result.ofRuns, Result.build]
    · rw [hresult]
      cases he : o.error? <;> simp [Result.ofRuns, Result.build, he]
  among := by
    intro given report hrule hreport
    obtain ⟨hnames, d', index', runs, hd', hx', hruns, hresult⟩ :=
      exists_runs_of_runLoaded r _ configs hreport
    cases hd.symm.trans hd'
    cases hx.symm.trans hx'
    obtain ⟨o', ho', hviolations, herrors, -⟩ := ofRuns_of_mem r configs hruns hnames hrule
    cases ho.symm.trans ho'
    rw [hresult]
    exact ⟨hviolations, herrors⟩

end DesignLint.Runner
