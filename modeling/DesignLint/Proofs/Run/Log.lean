import DesignLint.Proofs.Run.Shape

/-! # The log of a run -/

namespace DesignLint

/-! ## What a check logs -/

def Violation.entry (v : Violation) : LogEntry := .violationReported v.rule v.nodeId

/-- A session has counted and logged just what it stored. -/
structure Session.Accounts (s : Session) : Prop where
  log : s.log = s.store.map Violation.entry
  reported : s.reported = s.store.length

theorem Session.accounts_start : (start []).Accounts := ⟨rfl, rfl⟩

theorem Context.accounts_report {s : Session} (h : s.Accounts) (c : Context) (message : Json)
    (subject : Subject) (severity : Json) : (c.report s message subject severity).2.Accounts := by
  unfold report
  split
  · exact h
  · split
    · refine ⟨?_, ?_⟩
      · simp [Session.record, Violation.entry, h.log]
      · simp [Session.record, h.reported]
    · exact h

theorem Check.accounts_run {α : Type} {s : Session} (h : s.Accounts) (c : Context) (p : Check α) :
    (p.run c s).2.Accounts := by
  induction p generalizing s with
  | done a => exact h
  | fail f => exact h
  | reporting message subject severity next ih => exact ih _ (c.accounts_report h _ _ _)
  | reading name next ih => exact ih _ h
  | inspecting next ih => exact ih _ h
  | counting next ih => exact ih _ h
  | askingClosed next ih => exact ih _ h
  | closing next ih => exact ih ⟨h.log, h.reported⟩
  | noting v next ih => exact ih ⟨h.log, h.reported⟩

/-! ## What the log tells of one rule -/

namespace LogEntry

def reported? : LogEntry → Option (String × String)
  | violationReported rule nodeId => some (rule, nodeId)
  | _ => none

def failed? : LogEntry → Option RuleError
  | ruleFailed e => some e
  | _ => none

theorem filterMap_reported?_entries (l : List Violation) :
    (l.map Violation.entry).filterMap reported? = l.map fun v => (v.rule, v.nodeId) := by
  rw [List.filterMap_map, ← List.filterMap_eq_map]
  rfl

theorem filterMap_failed?_entries (l : List Violation) :
    (l.map Violation.entry).filterMap failed? = [] := by
  rw [List.filterMap_map]
  exact List.filterMap_none l

end LogEntry

namespace RuleRun

variable {o : RuleRun}

def Accounts (o : RuleRun) : Prop := ∀ c s e, o = .settled c s e → s.Accounts

theorem log_atop (earlier : Store) (o : RuleRun) : (o.atop earlier).log = o.log := by
  cases o <;> rfl

theorem flatMap_log_chain (store : Store) (runs : List RuleRun) :
    (chain store runs).flatMap log = runs.flatMap log := by
  induction runs generalizing store with
  | nil => rfl
  | cons o rest ih => simp only [chain, List.flatMap_cons, log_atop, ih]

theorem Accounts.reported (h : o.Accounts) :
    o.log.filterMap LogEntry.reported? = o.own.map fun v => (v.rule, v.nodeId) := by
  cases o with
  | settled c s e =>
    rw [log, (h c s e rfl).log, List.filterMap_append, List.filterMap_append, List.filterMap_append,
      LogEntry.filterMap_reported?_entries]
    cases e <;> exact (List.append_nil _).trans (List.append_nil _)
  | _ => rfl

theorem Accounts.failed (h : o.Accounts) :
    o.log.filterMap LogEntry.failed? = o.error?.toList := by
  cases o with
  | settled c s e =>
    rw [log, (h c s e rfl).log, List.filterMap_append, List.filterMap_append, List.filterMap_append,
      LogEntry.filterMap_failed?_entries]
    cases e <;> rfl
  | _ => rfl

theorem Accounts.finished (h : o.Accounts) {name : String} {succeeded : Bool} {n : Nat}
    (hmem : .ruleFinished name succeeded n ∈ o.log) :
    o.ranRule? = some name ∧ n = o.own.length := by
  cases o with
  | settled c s e =>
    have hlog := (h c s e rfl).log
    have hnot : .ruleFinished name succeeded n ∉ s.log := by
      rw [hlog]
      simp [Violation.entry]
    have hlast : name = c.rule ∧ succeeded = e.isNone ∧ n = s.reported := by
      cases e <;> simpa [log, hnot] using hmem
    obtain ⟨rfl, -, rfl⟩ := hlast
    exact ⟨rfl, (h c s e rfl).reported⟩
  | _ => simp [log] at hmem

end RuleRun

namespace Runner

variable {r : Runner} {index : Index Layer} {configs : Keyed ConfigInput} {rule : Rule}
  {o : RuleRun}

theorem Becomes.accounts (h : Becomes r index configs rule o) : o.Accounts := by
  rintro c t e rfl
  cases h with
  | settled given config schema values yielded s _ _ _ _ _ hrun =>
    have hs := Check.accounts_run Session.accounts_start (contextOf r index rule config values)
      rule.check
    rw [hrun] at hs
    exact ⟨hs.log, hs.reported⟩

/-- What the log tells of a rule with these violations. -/
def story (r : Runner) (index : Index Layer) (configs : Keyed ConfigInput)
    (violations : List Violation) (rule : Rule) : List LogEntry :=
  if (configOf configs rule.name).isNone then [.ruleSkipped rule.name .unconfigured]
  else if !isAttempted configs rule then [.ruleSkipped rule.name .inactive]
  else match r.mishap? index configs rule with
    | none => [.ruleStarted rule.name] ++ violations.map Violation.entry ++
      [.ruleFinished rule.name true violations.length]
    | some (.check, f) => [.ruleStarted rule.name] ++ violations.map Violation.entry ++
      [.ruleFailed (.ofFault rule.name f), .ruleFinished rule.name false violations.length]
    | some (.options, f) => [.ruleStarted rule.name, .ruleFailed (.ofFault rule.name f)]
    | some (_, f) => [.ruleFailed (.ofFault rule.name f)]

theorem Becomes.log_eq (h : Becomes r index configs rule o) :
    o.log = r.story index configs o.own rule := by
  have haccounts := h.accounts
  cases h with
  | unconfigured hgiven => simp [story, hgiven, RuleRun.log]
  | rejected given f hgiven hconfig =>
    simp [story, isAttempted, mishap?, hgiven, hconfig, RuleRun.log]
  | inactive given config hgiven hconfig hactive =>
    simp [story, isAttempted, hgiven, hconfig, hactive, RuleRun.log]
  | unstarted given config schema f hgiven hconfig hactive hschema hvalues =>
    simp [story, isAttempted, mishap?, hgiven, hconfig, hactive, hschema, hvalues, RuleRun.log,
      RuleError.ofFault]
  | settled given config schema values yielded s hgiven hconfig hactive hschema hvalues hrun =>
    obtain ⟨hlog, hreported⟩ := haccounts _ _ _ rfl
    rw [RuleRun.log, hlog, hreported]
    cases yielded with
    | ok a =>
      simp [story, isAttempted, mishap?, hgiven, hconfig, hactive, hschema, hvalues, hrun, errorOf,
        RuleRun.own]
    | error f =>
      simp [story, isAttempted, mishap?, hgiven, hconfig, hactive, hschema, hvalues, hrun, errorOf,
        RuleRun.own]

/-! ## The law -/

variable {loaded : Except Fault Document} {rules : List Rule} {report : RunReport}
  {runs : List RuleRun}

theorem accounts_of_mem (hruns : rules.mapM (r.solo index configs) = .ok runs) :
    ∀ o ∈ runs, o.Accounts := by
  intro o ho
  obtain ⟨rule, -, hsolo⟩ := Outcome.exists_of_mem_mapM hruns ho
  exact (becomes_of_solo hsolo).accounts

theorem flatMap_log_eq (hruns : rules.mapM (r.solo index configs) = .ok runs)
    (hnames : (rules.map (·.name)).Nodup) :
    runs.flatMap RuleRun.log = rules.flatMap fun rule =>
      r.story index configs ((Result.ofRuns runs).violationsFor rule.name) rule := by
  have hall : List.Forall₂ (fun rule o => rule ∈ rules ∧ r.solo index configs rule = .ok o)
      rules runs :=
    (List.forall₂_and_left _ _).mpr ⟨fun _ h => h, Outcome.mapM_eq_ok_iff.mp hruns⟩
  refine Outcome.flatMap_of_forall₂ hall ?_
  rintro rule o ⟨hrule, hsolo⟩
  obtain ⟨p, hp, hviolations, -, -⟩ := ofRuns_of_mem r configs hruns hnames hrule
  cases hsolo.symm.trans hp
  rw [hviolations, (becomes_of_solo hsolo).log_eq]

/-- The log of a run that returns is made of one passage for each rule, in the order of the
registry, and of the totals. It names the violations and the errors of the result. -/
theorem log_of_runLoaded (h : r.runLoaded loaded rules configs = .ok report) :
    ∃ d index, loaded = .ok d ∧ Index.build (some d.pages) = .ok index ∧
      report.log = (rules.flatMap fun rule =>
          r.story index configs (report.result.violationsFor rule.name) rule) ++
        [.runComplete report.result.rulesRun.length (Tree.preorderAll d.pages).length
          report.result.violations.length report.result.errors.length] ∧
      report.log.filterMap LogEntry.reported? =
        report.result.violations.map (fun v => (v.rule, v.nodeId)) ∧
      report.log.filterMap LogEntry.failed? = report.result.errors ∧
      ∀ name succeeded n, .ruleFinished name succeeded n ∈ report.log →
        n = (report.result.violationsFor name).length := by
  obtain ⟨hnames, d, index, runs, hd, hindex, hruns, rfl⟩ := exists_report_of_runLoaded h
  have haccounts := accounts_of_mem hruns
  have hsize : index.size = (Tree.preorderAll d.pages).length := by
    obtain ⟨hindexable, rfl⟩ := Index.indexable_of_build hindex
    exact (Index.describes_after d.pages hindexable).size
  have hlog : (Runner.report index (RuleRun.chain [] runs) (runs.flatMap RuleRun.own)).log =
      runs.flatMap RuleRun.log ++ [.runComplete (Result.ofRuns runs).rulesRun.length
        (Tree.preorderAll d.pages).length (Result.ofRuns runs).violations.length
        (Result.ofRuns runs).errors.length] := by
    rw [← hsize, ← RuleRun.flatMap_log_chain [], ← result_report index runs]
    rfl
  rw [result_report, hlog]
  refine ⟨d, index, hd, hindex, ?_, ?_, ?_, ?_⟩
  · rw [flatMap_log_eq hruns hnames]
  · rw [List.filterMap_append, List.filterMap_flatMap,
      List.flatMap_congr fun o ho => (haccounts o ho).reported, ← List.map_flatMap]
    exact List.append_nil _
  · rw [List.filterMap_append, List.filterMap_flatMap,
      List.flatMap_congr fun o ho => (haccounts o ho).failed, ← List.filterMap_eq_flatMap_toList]
    exact List.append_nil _
  · intro name succeeded n hmem
    rw [List.mem_append, List.mem_flatMap, List.mem_singleton] at hmem
    obtain ⟨o, ho, hmem⟩ := hmem.resolve_right (by simp)
    obtain ⟨hran, hn⟩ := (haccounts o ho).finished hmem
    obtain ⟨rule, -, -, hof, hviolations⟩ := exists_rule_of_mem hruns hnames ho
    rw [hof.ran name hran, hviolations, hn]

def idleRule : Rule := { brokenRule with name := "idle" }

theorem log_of_runLoaded_broken :
    ∃ report, runLoaded ⟨.warn⟩ (.ok sampleDocument) [brokenRule, idleRule, Ellipsis.rule]
        sampleConfigs = .ok report ∧
      report.log.filterMap LogEntry.reported? = [("broken", "t"), (Ellipsis.name, "t")] ∧
      (report.log.filterMap LogEntry.failed?).map (·.rule) = ["broken"] ∧
      report.log.getLast? = some (.runComplete 2 2 2 1) := by
  have hreport : runLoaded ⟨.warn⟩ (.ok sampleDocument) [brokenRule, idleRule, Ellipsis.rule]
      sampleConfigs = .ok _ := rfl
  obtain ⟨d, index, hd, -, hlog, hreported, hfailed, -⟩ := log_of_runLoaded hreport
  obtain rfl := Except.ok.inj hd
  refine ⟨_, hreport, hreported.trans rfl, ?_, ?_⟩
  · rw [hfailed]
    rfl
  · rw [hlog, List.getLast?_concat]
    rfl

end Runner

end DesignLint
