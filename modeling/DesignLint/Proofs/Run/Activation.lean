import DesignLint.Proofs.Run.Faults

/-!
# Rules that are active

The configuration of a rule is read as a whole before its flag counts: when another reserved value
does not fit, the rule is refused, even if it is not to be active.
-/

namespace DesignLint

namespace Result

/-- Nothing in a result is of the rule, not even that it ran. -/
structure Lacks (x : Result) (rule : String) : Prop where
  violations : x.violationsFor rule = []
  errors : x.errorsFor rule = []
  ran : rule ∉ x.rulesRun

/-- All that a result has of the rule is the one error that its options do not fit. -/
structure Refuses (x : Result) (rule : String) : Prop where
  violations : x.violationsFor rule = []
  error : ∃ problems, x.errorsFor rule = [.ofFault rule (.option (.invalid rule problems))]
  ran : rule ∈ x.rulesRun

end Result

namespace Runner

variable {r : Runner} {index : Index Layer} {configs : Keyed ConfigInput} {rule : Rule}
  {loaded : Except Fault Document} {rules : List Rule} {report : RunReport} {given : ConfigInput}
  {config : RuleConfig}

/-! ## What becomes of a rule -/

theorem solo_of_unconfigured (hgiven : configOf configs rule.name = none) :
    r.solo index configs rule = .ok (.skipped rule.name .unconfigured) := by
  simp only [solo, runRule, hgiven]

theorem solo_of_inactive (hgiven : configOf configs rule.name = some given)
    (hconfig : RuleConfig.coerce rule.name given = .ok config) (hactive : config.active = false) :
    r.solo index configs rule = .ok (.skipped rule.name .inactive) := by
  simp [solo, runRule, hgiven, hconfig, hactive]

theorem solo_of_refused {f : OptionFault} (hgiven : configOf configs rule.name = some given)
    (hconfig : RuleConfig.coerce rule.name given = .error (.option f)) :
    r.solo index configs rule = .ok (.rejected (.ofFault rule.name (.option f))) := by
  simp only [solo, runRule, hgiven, hconfig]

theorem configOf_of_flat? {keys : List Json} {flat : Keyed Json}
    (hgiven : configs.get? rule.name = some given) (hflat : given.flat? = some (keys, flat)) :
    configOf configs rule.name = some given := by
  rw [configOf, hgiven]
  cases given with
  | flat v =>
    cases v with
    | obj fields => rfl
    | _ => cases hflat
  | misnamed names fields => rfl
  | ready c => cases hflat

/-! ## What a run has of a rule -/

theorem exists_solo_of_runLoaded (h : r.runLoaded loaded rules configs = .ok report)
    (hrule : rule ∈ rules) :
    ∃ index o, r.solo index configs rule = .ok o ∧
      report.result.violationsFor rule.name = o.own ∧
      report.result.errorsFor rule.name = o.error?.toList ∧
      (rule.name ∈ report.result.rulesRun ↔ o.ranRule? = some rule.name) := by
  obtain ⟨hnames, -, index, runs, -, -, hruns, hresult⟩ :=
    exists_runs_of_runLoaded r loaded configs h
  rw [hresult]
  exact ⟨index, ofRuns_of_mem r configs hruns hnames hrule⟩

theorem lacks_of_skipped {reason : SkipReason} (h : r.runLoaded loaded rules configs = .ok report)
    (hrule : rule ∈ rules)
    (hskipped : ∀ index, r.solo index configs rule = .ok (.skipped rule.name reason)) :
    report.result.Lacks rule.name := by
  obtain ⟨index, o, ho, hviolations, herrors, hran⟩ := exists_solo_of_runLoaded h hrule
  cases ho.symm.trans (hskipped index)
  refine ⟨hviolations, herrors, fun hmem => ?_⟩
  cases hran.mp hmem

theorem refuses_of_coerce {problems : List String}
    (h : r.runLoaded loaded rules configs = .ok report) (hrule : rule ∈ rules)
    (hgiven : configOf configs rule.name = some given)
    (hconfig : RuleConfig.coerce rule.name given = .error (.option (.invalid rule.name problems))) :
    report.result.Refuses rule.name := by
  obtain ⟨index, o, ho, hviolations, herrors, hran⟩ := exists_solo_of_runLoaded h hrule
  cases ho.symm.trans (solo_of_refused hgiven hconfig)
  exact ⟨hviolations, ⟨problems, herrors⟩, hran.mpr rfl⟩

theorem mem_rulesRun_of_active (h : r.runLoaded loaded rules configs = .ok report)
    (hrule : rule ∈ rules) (hgiven : configOf configs rule.name = some given)
    (hconfig : RuleConfig.coerce rule.name given = .ok config) (hactive : config.active = true) :
    rule.name ∈ report.result.rulesRun := by
  obtain ⟨index, o, ho, -, -, hran⟩ := exists_solo_of_runLoaded h hrule
  have hattempted : isAttempted configs rule = true := by
    simp only [isAttempted, hgiven, hconfig, hactive]
  rw [hran, (becomes_of_solo ho).mishap?_eq.2.1, hattempted]
  rfl

/-! ## Rules that are not to be active -/

/-- A run that returns has nothing of a rule that is not active, as long as the severity and the
title in its configuration fit. If one of them does not, the rule has one error and still no
violation. -/
theorem deactivated_of_runLoaded {keys : List Json} {flat : Keyed Json}
    (h : r.runLoaded loaded rules configs = .ok report) (hrule : rule ∈ rules)
    (hgiven : configs.get? rule.name = some given) (hflat : given.flat? = some (keys, flat))
    (hactive : flat.get? "active" = some (.bool false)) :
    (keys = [] ∧ RuleConfig.Fits flat → report.result.Lacks rule.name) ∧
    (¬ (keys = [] ∧ RuleConfig.Fits flat) → report.result.Refuses rule.name) := by
  have hconfigured := configOf_of_flat? hgiven hflat
  obtain ⟨hfits, hrefused⟩ := ConfigInput.coerce_flat rule.name hflat
  constructor
  · intro h'
    obtain ⟨c, hc, hsays⟩ := hfits h'
    have hinactive : c.active = false := by
      have hflag := hsays.active
      rw [RuleConfig.flagIn, hactive] at hflag
      exact (Json.bool.inj hflag).symm
    exact lacks_of_skipped h hrule fun index => solo_of_inactive hconfigured hc hinactive
  · intro hnot
    obtain ⟨problems, hproblems⟩ := hrefused hnot
    exact refuses_of_coerce h hrule hconfigured hproblems

def silenced (severity : String) : Keyed Json :=
  [("active", .bool false), ("severity", .str severity), ("min_size", .str "large")]

def silencedConfigs (severity : String) : Keyed ConfigInput :=
  [(Ellipsis.name, .flat (.obj (silenced severity)))]

theorem deactivated_of_runLoaded_silenced :
    (∃ report, runLoaded ⟨.warn⟩ (.ok sampleDocument) [Ellipsis.rule] (silencedConfigs "error") =
        .ok report ∧ report.result.Lacks Ellipsis.name) ∧
    ∃ report, runLoaded ⟨.warn⟩ (.ok sampleDocument) [Ellipsis.rule] (silencedConfigs "loud") =
        .ok report ∧ report.result.Refuses Ellipsis.name := by
  constructor
  · have hreport : runLoaded ⟨.warn⟩ (.ok sampleDocument) [Ellipsis.rule]
        (silencedConfigs "error") = .ok _ := rfl
    have hflat : (ConfigInput.flat (.obj (silenced "error"))).flat? =
        some ([], silenced "error") := rfl
    have hfits : RuleConfig.Fits (silenced "error") :=
      ⟨⟨false, rfl⟩, .inr ⟨.error, rfl⟩, .inl rfl⟩
    exact ⟨_, hreport,
      (deactivated_of_runLoaded hreport List.mem_cons_self rfl hflat rfl).1 ⟨rfl, hfits⟩⟩
  · have hreport : runLoaded ⟨.warn⟩ (.ok sampleDocument) [Ellipsis.rule]
        (silencedConfigs "loud") = .ok _ := rfl
    have hflat : (ConfigInput.flat (.obj (silenced "loud"))).flat? =
        some ([], silenced "loud") := rfl
    have hnot : ¬ RuleConfig.Fits (silenced "loud") := by
      rintro ⟨-, hnull | ⟨s, hs⟩, -⟩
      · cases hnull
      · have hname : "loud" = s.name := Json.str.inj hs
        revert hname; cases s <;> decide
    exact ⟨_, hreport, (deactivated_of_runLoaded hreport List.mem_cons_self rfl hflat rfl).2
      fun h => hnot h.2⟩

/-- A rule that is not to be active runs and has an error when its severity is not one. -/
theorem silenced_loud_reported :
    Index.build (some sampleDocument.pages) = .ok sampleIndex ∧
    ([Ellipsis.rule].map (·.name)).Nodup ∧
    (silencedConfigs "loud").get? Ellipsis.name = some (.flat (.obj (silenced "loud"))) ∧
    (silenced "loud").get? "active" = some (.bool false) ∧
    ∃ report, runLoaded ⟨.warn⟩ (.ok sampleDocument) [Ellipsis.rule] (silencedConfigs "loud") =
        .ok report ∧
      report.result.errors.length = 1 ∧ report.result.rulesRun = [Ellipsis.name] ∧
      ¬ report.result.Lacks Ellipsis.name := by
  have hreport : runLoaded ⟨.warn⟩ (.ok sampleDocument) [Ellipsis.rule]
      (silencedConfigs "loud") = .ok _ := rfl
  refine ⟨build_sampleDocument, by decide, rfl, rfl, _, hreport, rfl, rfl, fun hlacks => ?_⟩
  exact hlacks.ran List.mem_cons_self

end Runner

end DesignLint
