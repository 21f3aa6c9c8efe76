import DesignLint.Proofs.Run.Faults
import DesignLint.Proofs.Run.Invoked

/-! # The shape of results -/

namespace DesignLint

/-! ## Summaries -/

namespace Summary

def total (s : Summary) : Nat := s.info + s.warn + s.error

theorem total_ofViolations (l : List Violation) : (ofViolations l).total = l.length := by
  induction l with
  | nil => rfl
  | cons v rest ih =>
    simp only [total, ofViolations, List.countP_cons, List.length_cons] at ih ⊢
    rcases hv : v.severity <;> simp <;> omega

end Summary

/-! ## What became of the rules -/

namespace RuleRun

theorem own_eq_nil_of_skipped {o : RuleRun} (h : o.ranRule? = none) : o.own = [] := by
  cases o with
  | skipped => rfl
  | _ => cases h

theorem IsOf.rule_error? {name : String} {o : RuleRun} (h : o.IsOf name) :
    o.error?.map (·.rule) = none ∨ o.error?.map (·.rule) = o.ranRule? := by
  cases he : o.error? with
  | none => exact .inl rfl
  | some e =>
    refine .inr ?_
    cases hn : o.ranRule? with
    | none =>
      cases o with
      | skipped => cases he
      | _ => cases hn
    | some n => rw [Option.map_some, h.error e he, h.ran n hn]

theorem filterMap_sublist {α β : Type} {f g : α → Option β} {l : List α}
    (h : ∀ a ∈ l, f a = none ∨ f a = g a) : (l.filterMap f).Sublist (l.filterMap g) := by
  induction l with
  | nil => exact .slnil
  | cons a rest ih =>
    obtain ⟨ha, hrest⟩ := List.forall_mem_cons.mp h
    rw [List.filterMap_cons, List.filterMap_cons]
    rcases ha with ha | ha
    · rw [ha]
      cases g a with
      | none => exact ih hrest
      | some b => exact (ih hrest).cons b
    · rw [ha]
      cases g a with
      | none => exact ih hrest
      | some b => exact (ih hrest).cons_cons b

end RuleRun

/-! ## Results -/

/-- How the parts of a result fit together, for a registry of rules with these names. -/
structure Result.HasShape (names : List String) (x : Result) : Prop where
  rulesRun : x.rulesRun.Sublist names
  rulesRun_nodup : x.rulesRun.Nodup
  errors : (x.errors.map (·.rule)).Sublist x.rulesRun
  errors_nodup : (x.errors.map (·.rule)).Nodup
  blocks : x.rulesRun.flatMap x.violationsFor = x.violations
  ran : ∀ v ∈ x.violations, v.rule ∈ x.rulesRun
  info : x.summary.info = x.violations.countP (·.severity = .info)
  warn : x.summary.warn = x.violations.countP (·.severity = .warn)
  error : x.summary.error = x.violations.countP (·.severity = .error)
  total : x.summary.total = x.violations.length

namespace Runner

variable {r : Runner} {index : Index Layer} {configs : Keyed ConfigInput} {rules : List Rule}
  {runs : List RuleRun}

theorem exists_rule_of_mem (hruns : rules.mapM (r.solo index configs) = .ok runs)
    (hnames : (rules.map (·.name)).Nodup) {o : RuleRun} (ho : o ∈ runs) :
    ∃ rule ∈ rules, r.solo index configs rule = .ok o ∧ o.IsOf rule.name ∧
      (Result.ofRuns runs).violationsFor rule.name = o.own := by
  obtain ⟨rule, hrule, hsolo⟩ := Outcome.exists_of_mem_mapM hruns ho
  obtain ⟨p, hp, hviolations, -, -⟩ := ofRuns_of_mem r configs hruns hnames hrule
  cases hsolo.symm.trans hp
  exact ⟨rule, hrule, hsolo, (becomes_of_solo hsolo).isOf, hviolations⟩

theorem errors_ofRuns_sublist (hruns : rules.mapM (r.solo index configs) = .ok runs)
    (hnames : (rules.map (·.name)).Nodup) :
    ((Result.ofRuns runs).errors.map (·.rule)).Sublist (Result.ofRuns runs).rulesRun := by
  have herrors : (Result.ofRuns runs).errors.map (·.rule) =
      runs.filterMap fun o => o.error?.map (·.rule) := List.map_filterMap
  rw [herrors]
  refine RuleRun.filterMap_sublist fun o ho => ?_
  obtain ⟨rule, -, -, hof, -⟩ := exists_rule_of_mem hruns hnames ho
  exact hof.rule_error?

theorem flatMap_violationsFor (hruns : rules.mapM (r.solo index configs) = .ok runs)
    (hnames : (rules.map (·.name)).Nodup) :
    (Result.ofRuns runs).rulesRun.flatMap (Result.ofRuns runs).violationsFor =
      (Result.ofRuns runs).violations := by
  have hblock : ∀ o ∈ runs,
      o.ranRule?.toList.flatMap (Result.ofRuns runs).violationsFor = o.own := by
    intro o ho
    obtain ⟨rule, -, -, hof, hviolations⟩ := exists_rule_of_mem hruns hnames ho
    cases hn : o.ranRule? with
    | none =>
      rw [RuleRun.own_eq_nil_of_skipped hn]
      rfl
    | some n =>
      rw [hof.ran n hn, Option.toList_some, List.flatMap_singleton, hviolations]
  calc (Result.ofRuns runs).rulesRun.flatMap (Result.ofRuns runs).violationsFor
      = (runs.flatMap fun o => o.ranRule?.toList).flatMap (Result.ofRuns runs).violationsFor := by
        rw [← List.filterMap_eq_flatMap_toList]
        rfl
    _ = runs.flatMap fun o => o.ranRule?.toList.flatMap (Result.ofRuns runs).violationsFor :=
        List.flatMap_assoc
    _ = runs.flatMap RuleRun.own := List.flatMap_congr hblock

theorem hasShape_ofRuns (hruns : rules.mapM (r.solo index configs) = .ok runs)
    (hnames : (rules.map (·.name)).Nodup) :
    (Result.ofRuns runs).HasShape (rules.map (·.name)) := by
  have hsublist : (Result.ofRuns runs).rulesRun.Sublist (rules.map (·.name)) := by
    rw [(errors_ofRuns hruns).2]
    exact List.filter_sublist.map _
  have hblocks := flatMap_violationsFor hruns hnames
  have herrors := errors_ofRuns_sublist hruns hnames
  exact {
    rulesRun := hsublist
    rulesRun_nodup := hnames.sublist hsublist
    errors := herrors
    errors_nodup := (hnames.sublist hsublist).sublist herrors
    blocks := hblocks
    ran := by
      intro v hv
      rw [← hblocks] at hv
      obtain ⟨n, hn, hv⟩ := List.mem_flatMap.mp hv
      rwa [of_decide_eq_true (List.mem_filter.mp hv).2]
    info := rfl
    warn := rfl
    error := rfl
    total := Summary.total_ofViolations _ }

/-! ## Runs -/

variable {loaded : Except Fault Document} {report : RunReport}

/-- The result of a run that returns has its shape, and its violations are those of the reports that
are accepted in the contexts in which checks are invoked. -/
theorem shape_of_runLoaded (h : r.runLoaded loaded rules configs = .ok report) :
    report.result.HasShape (rules.map (·.name)) ∧
    ∃ d index, loaded = .ok d ∧ Index.build (some d.pages) = .ok index ∧
      (∀ rule ∈ rules, ∀ config c, Invokes r index configs rule config c →
        report.result.violationsFor rule.name =
            (rule.check.accepted c (Session.start [])).map (·.violation) ∧
          ∀ a ∈ rule.check.accepted c (Session.start []), a.severity.isGiven = false →
            a.violation.severity = config.severity.getD r.severity) ∧
      ∀ v ∈ report.result.violations, ∃ rule ∈ rules, ∃ config c,
        Invokes r index configs rule config c ∧ v.rule = rule.name ∧
          ∃ a ∈ rule.check.accepted c (Session.start []), a.violation = v := by
  obtain ⟨hnames, d, index, runs, hd, hbuild, hruns, hresult⟩ :=
    exists_runs_of_runLoaded r loaded configs h
  rw [hresult]
  refine ⟨hasShape_ofRuns hruns hnames, d, index, hd, hbuild, ?_, ?_⟩
  · intro rule hrule config c hc
    obtain ⟨o, ho, hviolations, -, -⟩ := ofRuns_of_mem r configs hruns hnames hrule
    refine ⟨hviolations.trans (hc.own_eq ho), fun a ha hgiven => ?_⟩
    rw [Context.severity_of_violation (Check.violation_of_accepted ha) hgiven, hc.severity_eq]
  · intro v hv
    obtain ⟨o, ho, hown⟩ := List.mem_flatMap.mp hv
    obtain ⟨rule, hrule, hsolo, hof, -⟩ := exists_rule_of_mem hruns hnames ho
    obtain ⟨config, c, hc⟩ := exists_invokes_of_own hsolo (List.ne_nil_of_mem hown)
    refine ⟨rule, hrule, config, c, hc, hof.own v hown, ?_⟩
    rw [hc.own_eq hsolo] at hown
    exact List.mem_map.mp hown

theorem shape_of_runLoaded_broken :
    ∃ report, runLoaded ⟨.error⟩ (.ok sampleDocument) [brokenRule, Ellipsis.rule] sampleConfigs =
        .ok report ∧
      report.result.HasShape ["broken", Ellipsis.name] ∧
      report.result.violations.map (fun v => (v.rule, v.severity)) =
        [("broken", .error), (Ellipsis.name, .error)] ∧
      report.result.errors.map (·.rule) = ["broken"] := by
  have hreport : runLoaded ⟨.error⟩ (.ok sampleDocument) [brokenRule, Ellipsis.rule]
      sampleConfigs = .ok _ := rfl
  exact ⟨_, hreport, (shape_of_runLoaded hreport).1, rfl, rfl⟩

end Runner

end DesignLint
