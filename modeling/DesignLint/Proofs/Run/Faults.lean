import DesignLint.Proofs.Index.Build
import DesignLint.Proofs.RuleOption.Config
import DesignLint.Proofs.Run.Isolation

/-!
# Faults in runs

Each fault of a rule becomes its one error, but for one stage: a schema that does not compile ends
the whole run.
-/

namespace DesignLint

/-! ## What goes wrong with a rule -/

inductive Stage
  | configuration
  | schema
  | options
  | check
  deriving DecidableEq

namespace Runner

/-- What goes wrong with a rule on its own, if anything does, and at which stage. -/
def mishap? (r : Runner) (index : Index Layer) (configs : Keyed ConfigInput) (rule : Rule) :
    Option (Stage × Fault) :=
  match configOf configs rule.name with
  | none => none
  | some given =>
    match RuleConfig.coerce rule.name given with
    | .error f => some (.configuration, f)
    | .ok config =>
      if config.active then
        match Schema.compile rule.name rule.options with
        | .error f => some (.schema, f)
        | .ok schema =>
          match OptionValues.check rule.name rule.options schema config with
          | .error f => some (.options, f)
          | .ok values =>
            match (rule.check.run (contextOf r index rule config values) (Session.start [])).1 with
            | .error f => some (.check, f)
            | .ok () => none
      else none

def mishapError (rule : Rule) (m : Stage × Fault) : RuleError := .ofFault rule.name m.2

/-- Whether a rule has a configuration that makes it active, or one that cannot be read. -/
def isAttempted (configs : Keyed ConfigInput) (rule : Rule) : Bool :=
  match configOf configs rule.name with
  | none => false
  | some given =>
    match RuleConfig.coerce rule.name given with
    | .error _ => true
    | .ok config => config.active

/-- Whether the configuration of a rule, if there is one, is a flat object or a ready one. -/
def HasMapping (configs : Keyed ConfigInput) (rule : Rule) : Prop :=
  ∀ v, configOf configs rule.name = some (.flat v) → ∃ fields, v = .obj fields

theorem option_of_coerce {configs : Keyed ConfigInput} {rule : Rule} {given : ConfigInput} {f : Fault}
    (hmapping : HasMapping configs rule) (hgiven : configOf configs rule.name = some given)
    (h : RuleConfig.coerce rule.name given = .error f) : ∃ g, f = .option g := by
  have hflat : ∀ keys fields, RuleConfig.ofFlatFor rule.name keys (.obj fields) = .error f →
      ∃ g, f = .option g := by
    intro keys fields h
    obtain ⟨problems, rfl⟩ := RuleConfig.ofFlatFor_eq_error h
    exact ⟨_, rfl⟩
  cases given with
  | flat v =>
    obtain ⟨fields, rfl⟩ := hmapping v hgiven
    exact hflat [] fields h
  | misnamed keys fields => exact hflat keys fields h
  | ready c => cases h

/-! ## One rule -/

variable {r : Runner} {index : Index Layer} {configs : Keyed ConfigInput} {rule : Rule}

theorem Becomes.mishap?_eq {o : RuleRun} (h : Becomes r index configs rule o) :
    o.error? = (r.mishap? index configs rule).map (mishapError rule) ∧
      o.ranRule? = (if isAttempted configs rule then some rule.name else none) ∧
      ∀ f, r.mishap? index configs rule ≠ some (.schema, f) := by
  cases h with
  | unconfigured hgiven =>
    simp [mishap?, isAttempted, hgiven, RuleRun.error?, RuleRun.ranRule?]
  | rejected given f hgiven hconfig =>
    simp [mishap?, isAttempted, hgiven, hconfig, RuleRun.error?, RuleRun.ranRule?, mishapError,
      RuleError.ofFault]
  | inactive given config hgiven hconfig hactive =>
    simp [mishap?, isAttempted, hgiven, hconfig, hactive, RuleRun.error?, RuleRun.ranRule?]
  | unstarted given config schema f hgiven hconfig hactive hschema hvalues =>
    simp [mishap?, isAttempted, hgiven, hconfig, hactive, hschema, hvalues, RuleRun.error?,
      RuleRun.ranRule?, mishapError, RuleError.ofFault]
  | settled given config schema values yielded s hgiven hconfig hactive hschema hvalues hrun =>
    cases yielded with
    | ok a =>
      simp [mishap?, isAttempted, hgiven, hconfig, hactive, hschema, hvalues, hrun, RuleRun.error?,
        RuleRun.ranRule?, errorOf]
    | error f =>
      simp [mishap?, isAttempted, hgiven, hconfig, hactive, hschema, hvalues, hrun, RuleRun.error?,
        RuleRun.ranRule?, errorOf, mishapError]

theorem solo_of_schema {f : Fault} (h : r.mishap? index configs rule = some (.schema, f)) :
    r.solo index configs rule = .error f := by
  unfold mishap? at h
  split at h
  · cases h
  · rename_i given hgiven
    split at h
    · cases h
    · rename_i config hconfig
      split at h
      · rename_i hactive
        split at h
        · rename_i g hcompiled
          cases h
          simp [solo, runRule, start, hgiven, hconfig, hactive, hcompiled]
        · -- the options are checked, and no later stage is that of the schema
          split at h
          · cases h
          · split at h <;> cases h
      · cases h

theorem exists_solo (hmapping : HasMapping configs rule)
    (hfatal : ∀ stage f, r.mishap? index configs rule = some (stage, f) → f.isFatal = false)
    (hschema : ∀ f, r.mishap? index configs rule ≠ some (.schema, f)) :
    ∃ o, r.solo index configs rule = .ok o := by
  unfold solo runRule
  unfold mishap? at hfatal hschema
  cases hgiven : configOf configs rule.name with
  | none => exact ⟨_, rfl⟩
  | some given =>
    simp only [hgiven] at hfatal hschema ⊢
    cases hconfig : RuleConfig.coerce rule.name given with
    | error f =>
      obtain ⟨g, rfl⟩ := option_of_coerce hmapping hgiven hconfig
      exact ⟨_, rfl⟩
    | ok config =>
      simp only [hconfig] at hfatal hschema ⊢
      cases hactive : config.active with
      | false => exact ⟨_, rfl⟩
      | true =>
        simp only [hactive, if_true] at hfatal hschema ⊢
        unfold start
        cases hcompiled : Schema.compile rule.name rule.options with
        | error f => simp [hcompiled] at hschema
        | ok schema =>
          simp only [hcompiled] at hfatal ⊢
          cases hvalues : OptionValues.check rule.name rule.options schema config with
          | error f => exact ⟨_, rfl⟩
          | ok values =>
            simp only [hvalues] at hfatal ⊢
            change ∃ o, settle (contextOf r index rule config values) [] rule.check = .ok o
            unfold settle
            rcases hrun : rule.check.run (contextOf r index rule config values)
              (Session.start []) with ⟨f | a, s⟩
            · have hnot : f.isFatal = false := hfatal .check f (by simp [hrun])
              simp [hnot]
            · exact ⟨_, rfl⟩

theorem solo_eq_error_iff (hmapping : HasMapping configs rule)
    (hfatal : ∀ stage f, r.mishap? index configs rule = some (stage, f) → f.isFatal = false)
    (f : Fault) :
    r.solo index configs rule = .error f ↔ r.mishap? index configs rule = some (.schema, f) := by
  refine ⟨fun h => ?_, solo_of_schema⟩
  by_contra hnot
  have hschema : ∀ g, r.mishap? index configs rule ≠ some (.schema, g) := by
    intro g hg
    have hfg := (solo_of_schema hg).symm.trans h
    cases hfg
    exact hnot hg
  obtain ⟨o, ho⟩ := exists_solo hmapping hfatal hschema
  rw [ho] at h
  cases h

theorem exists_solo_iff (hmapping : HasMapping configs rule)
    (hfatal : ∀ stage f, r.mishap? index configs rule = some (stage, f) → f.isFatal = false) :
    (∃ o, r.solo index configs rule = .ok o) ↔
      ∀ f, r.mishap? index configs rule ≠ some (.schema, f) := by
  refine ⟨?_, exists_solo hmapping hfatal⟩
  rintro ⟨o, ho⟩
  exact (becomes_of_solo ho).mishap?_eq.2.2

/-! ## Whole runs -/

variable {loaded : Except Fault Document} {d : Document} {rules : List Rule}

theorem errors_ofRuns {runs : List RuleRun} (hruns : rules.mapM (r.solo index configs) = .ok runs) :
    (Result.ofRuns runs).errors =
        rules.filterMap (fun rule => (r.mishap? index configs rule).map (mishapError rule)) ∧
      (Result.ofRuns runs).rulesRun = (rules.filter (isAttempted configs)).map (·.name) := by
  have hall := Outcome.mapM_eq_ok_iff.mp hruns
  refine ⟨?_, ?_⟩
  · refine Outcome.filterMap_of_forall₂ hall fun rule o ho => ?_
    exact (becomes_of_solo ho).mishap?_eq.1
  · have hran : (Result.ofRuns runs).rulesRun =
        rules.filterMap fun rule => if isAttempted configs rule then some rule.name else none :=
      Outcome.filterMap_of_forall₂ hall fun rule o ho => (becomes_of_solo ho).mishap?_eq.2.1
    rw [hran, ← List.filterMap_eq_map, List.filterMap_filter]
    simp

/-- A run of rules with distinct names over a document that has an index returns exactly when every
active rule has a schema that compiles. Then every mishap of a rule is its one error. Every fault is
taken to have a text: an exception of which none can be made would end the run as well. -/
theorem runLoaded_returns_iff (hd : loaded = .ok d)
    (hindex : Index.build (some d.pages) = .ok index) (hnames : (rules.map (·.name)).Nodup)
    (hmapping : ∀ rule ∈ rules, HasMapping configs rule)
    (hfatal : ∀ rule ∈ rules, ∀ stage f,
      r.mishap? index configs rule = some (stage, f) → f.isFatal = false) :
    ((∃ report, r.runLoaded loaded rules configs = .ok report) ↔
      ∀ rule ∈ rules, ∀ f, r.mishap? index configs rule ≠ some (.schema, f)) ∧
    (∀ f, r.runLoaded loaded rules configs = .error f ↔
      ∃ before rule after, rules = before ++ rule :: after ∧
        (∀ b ∈ before, ∀ g, r.mishap? index configs b ≠ some (.schema, g)) ∧
        r.mishap? index configs rule = some (.schema, f)) ∧
    (∀ report, r.runLoaded loaded rules configs = .ok report →
      report.result.errors =
        rules.filterMap (fun rule => (r.mishap? index configs rule).map (mishapError rule)) ∧
      (∀ rule ∈ rules, report.result.errorsFor rule.name =
        ((r.mishap? index configs rule).map (mishapError rule)).toList) ∧
      report.result.rulesRun = (rules.filter (isAttempted configs)).map (·.name)) := by
  have hresult := result_runLoaded_of_index r configs hd hindex hnames
  refine ⟨?_, fun f => ?_, fun report hreport => ?_⟩
  · constructor
    · rintro ⟨report, hreport⟩ rule hrule
      rw [hreport] at hresult
      obtain ⟨runs, hruns, _⟩ := Outcome.map_eq_ok_iff.mp hresult.symm
      exact (exists_solo_iff (hmapping rule hrule) (hfatal rule hrule)).mp
        (Outcome.exists_mapM_eq_ok_iff.mp ⟨runs, hruns⟩ rule hrule)
    · intro hschema
      obtain ⟨runs, hruns⟩ := Outcome.exists_mapM_eq_ok_iff.mpr fun rule hrule =>
        (exists_solo_iff (hmapping rule hrule) (hfatal rule hrule)).mpr (hschema rule hrule)
      rw [hruns] at hresult
      obtain ⟨report, hreport, _⟩ := Outcome.map_eq_ok_iff.mp hresult
      exact ⟨report, hreport⟩
  · rw [← Outcome.map_eq_error_iff (f := RunReport.result), hresult, Outcome.map_eq_error_iff,
      Outcome.mapM_eq_error_iff]
    constructor
    · rintro ⟨before, rule, after, rfl, hbefore, hrule⟩
      refine ⟨before, rule, after, rfl, fun b hb => ?_, ?_⟩
      · have hmem : b ∈ before ++ rule :: after := List.mem_append_left _ hb
        exact (exists_solo_iff (hmapping b hmem) (hfatal b hmem)).mp (hbefore b hb)
      · have hmem : rule ∈ before ++ rule :: after := by simp
        exact (solo_eq_error_iff (hmapping rule hmem) (hfatal rule hmem) f).mp hrule
    · rintro ⟨before, rule, after, rfl, hbefore, hrule⟩
      refine ⟨before, rule, after, rfl, fun b hb => ?_, solo_of_schema hrule⟩
      have hmem : b ∈ before ++ rule :: after := List.mem_append_left _ hb
      exact (exists_solo_iff (hmapping b hmem) (hfatal b hmem)).mpr (hbefore b hb)
  · rw [hreport] at hresult
    obtain ⟨runs, hruns, heq⟩ := Outcome.map_eq_ok_iff.mp hresult.symm
    have hreported : report.result = Result.ofRuns runs := heq.symm
    obtain ⟨herrors, hran⟩ := errors_ofRuns hruns
    rw [hreported]
    refine ⟨herrors, fun rule hrule => ?_, hran⟩
    obtain ⟨o, ho, _, honly, _⟩ := ofRuns_of_mem r configs hruns hnames hrule
    rw [honly, (becomes_of_solo ho).mishap?_eq.1]

/-! ## A rule whose options have no schema -/

def optionRule (d : Declaration) : Rule where
  sort := "Rule"
  name := "with/option"
  title := .fixed ""
  description := .fixed ""
  options := [d]
  check := .done ()

def optionConfigs : Keyed ConfigInput :=
  [("with/option", .flat (.obj [])), (Ellipsis.name, .flat (.obj []))]

def optionRules (d : Declaration) : List Rule := [optionRule d, Ellipsis.rule]

def unknownOption : Declaration := { name := "x", type := .unknown "?" }

def misfitOption : Declaration := { name := "x", type := .integer, fallback := some (.str "one") }

theorem configOf_optionRules {d : Declaration} {rule : Rule} (hrule : rule ∈ optionRules d) :
    configOf optionConfigs rule.name = some (.flat (.obj [])) := by
  rcases List.mem_cons.mp hrule with rfl | hrule
  · rfl
  · rw [List.mem_singleton.mp hrule]
    rfl

theorem hasMapping_optionRules (d : Declaration) :
    ∀ rule ∈ optionRules d, HasMapping optionConfigs rule := by
  intro rule hrule v hv
  rw [configOf_optionRules hrule] at hv
  cases hv
  exact ⟨_, rfl⟩

def sampleIndex : Index Layer := (Walk.after (visitsOfPages sampleDocument.pages)).index

theorem build_sampleDocument : Index.build (some sampleDocument.pages) = .ok sampleIndex := rfl

theorem mishap?_optionRules {d : Declaration} {rule : Rule} {m : Stage × Fault}
    (hrule : rule ∈ optionRules d) (h : mishap? ⟨.warn⟩ sampleIndex optionConfigs rule = some m) :
    mishap? ⟨.warn⟩ sampleIndex optionConfigs (optionRule d) = some m := by
  rcases List.mem_cons.mp hrule with rfl | hrule
  · exact h
  · have hnone : mishap? ⟨.warn⟩ sampleIndex optionConfigs Ellipsis.rule = none := rfl
    rw [List.mem_singleton.mp hrule, hnone] at h
    cases h

theorem isFatal_optionRules {d : Declaration} {m : Stage × Fault}
    (hd : mishap? ⟨.warn⟩ sampleIndex optionConfigs (optionRule d) = some m)
    (hm : m.2.isFatal = false) : ∀ rule ∈ optionRules d, ∀ stage f,
      mishap? ⟨.warn⟩ sampleIndex optionConfigs rule = some (stage, f) → f.isFatal = false := by
  intro rule hrule stage f h
  cases hd.symm.trans (mishap?_optionRules hrule h)
  exact hm

theorem runLoaded_returns_misfitOption :
    ((∀ rule ∈ optionRules misfitOption, HasMapping optionConfigs rule) ∧
      ∀ rule ∈ optionRules misfitOption, ∀ stage f,
        mishap? ⟨.warn⟩ sampleIndex optionConfigs rule = some (stage, f) → f.isFatal = false) ∧
    ∃ report, runLoaded ⟨.warn⟩ (.ok sampleDocument) (optionRules misfitOption) optionConfigs =
        .ok report ∧
      report.result.errors.length = 1 ∧
      report.result.rulesRun = ["with/option", Ellipsis.name] := by
  have hmapping := hasMapping_optionRules misfitOption
  have hfatal := isFatal_optionRules (d := misfitOption) rfl rfl
  have hlaw := runLoaded_returns_iff (rfl : Except.ok sampleDocument = .ok _) build_sampleDocument
    (by decide) hmapping hfatal
  have hschema : ∀ rule ∈ optionRules misfitOption, ∀ f,
      mishap? ⟨.warn⟩ sampleIndex optionConfigs rule ≠ some (.schema, f) := by
    intro rule hrule f h
    cases mishap?_optionRules hrule h
  obtain ⟨report, hreport⟩ := hlaw.1.mpr hschema
  obtain ⟨herrors, -, hran⟩ := hlaw.2.2 report hreport
  refine ⟨⟨hmapping, hfatal⟩, report, hreport, ?_, ?_⟩
  · rw [herrors]
    rfl
  · rw [hran]
    rfl

/-- An option of an unknown type ends the run, and nothing of the next rule is kept. -/
theorem unknownOption_ends_run :
    Index.build (some sampleDocument.pages) = .ok sampleIndex ∧
    ((optionRules unknownOption).map (·.name)).Nodup ∧
    (∀ rule ∈ optionRules unknownOption, HasMapping optionConfigs rule) ∧
    (∀ rule ∈ optionRules unknownOption, ∀ stage f,
      mishap? ⟨.warn⟩ sampleIndex optionConfigs rule = some (stage, f) → f.isFatal = false) ∧
    runLoaded ⟨.warn⟩ (.ok sampleDocument) (optionRules unknownOption) optionConfigs =
      .error (.optionType "?") ∧
    ¬ ∃ report, runLoaded ⟨.warn⟩ (.ok sampleDocument) (optionRules unknownOption) optionConfigs =
      .ok report := by
  have hrun : runLoaded ⟨.warn⟩ (.ok sampleDocument) (optionRules unknownOption) optionConfigs =
      .error (.optionType "?") := rfl
  refine ⟨build_sampleDocument, by decide, hasMapping_optionRules _,
    isFatal_optionRules (d := unknownOption) rfl rfl, hrun, ?_⟩
  rintro ⟨report, hreport⟩
  rw [hrun] at hreport
  cases hreport

end Runner

end DesignLint
