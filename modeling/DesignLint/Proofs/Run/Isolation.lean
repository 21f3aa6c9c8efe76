import DesignLint.Bundled.Ellipsis
import DesignLint.Proofs.Run.Compose

/-! # Rules do not disturb each other -/

namespace DesignLint.Runner

variable (r : Runner) (loaded : Except Fault Document) (configs : Keyed ConfigInput)

/-! ## Two lists of rules -/

/-- Running rules is a homomorphism from lists of rules to results, faults included. -/
theorem result_append (A B : List Rule) (hnames : ((A ++ B).map (·.name)).Nodup) :
    (r.runLoaded loaded (A ++ B) configs).map (·.result) = (do
      let a ← (r.runLoaded loaded A configs).map (·.result)
      let b ← (r.runLoaded loaded B configs).map (·.result)
      return a.append b) := by
  have hsplit := List.nodup_append.mp (List.map_append ▸ hnames)
  rw [result_runLoaded r loaded (A ++ B) configs hnames,
    result_runLoaded r loaded A configs hsplit.1, result_runLoaded r loaded B configs hsplit.2.1]
  cases indexed loaded with
  | error f => rfl
  | ok index =>
    simp only [Except.bind, List.mapM_append]
    cases A.mapM (r.solo index configs) with
    | error f => rfl
    | ok runs =>
      cases B.mapM (r.solo index configs) with
      | error f => rfl
      | ok more =>
        simp only [bind, Except.bind, Except.map, pure, Except.pure, Result.ofRuns_append]

/-! ## Configurations -/

theorem runRules_congr (index : Index Layer) (others : Keyed ConfigInput) (store : Store)
    (rules : List Rule) (h : ∀ rule ∈ rules, others.get? rule.name = configs.get? rule.name) :
    r.runRules index others store rules = r.runRules index configs store rules := by
  induction rules generalizing store with
  | nil => rfl
  | cons rule rest ih =>
    have hconfig : configOf others rule.name = configOf configs rule.name := by
      rw [configOf, configOf, h rule List.mem_cons_self]
    have hrest : ∀ store, r.runRules index others store rest =
        r.runRules index configs store rest :=
      fun store => ih store fun rule hrule => h rule (List.mem_cons_of_mem _ hrule)
    simp only [runRules, hconfig, hrest]

theorem runLoaded_congr (others : Keyed ConfigInput) (rules : List Rule)
    (h : ∀ rule ∈ rules, others.get? rule.name = configs.get? rule.name) :
    r.runLoaded loaded rules others = r.runLoaded loaded rules configs := by
  unfold runLoaded
  cases hregistry : Registry.ofList rules with
  | error f => rfl
  | ok registry =>
    have hrules : registry = ⟨rules⟩ := ((Registry.ofList_eq_ok_iff rules registry).mp hregistry).1
    simp only [hrules, runDocument, bind, Except.bind,
      runRules_congr r configs _ others [] rules h]

/-! ## One rule among others -/

theorem ofRuns_of_mem {index : Index Layer} {rules : List Rule} {runs : List RuleRun}
    (hruns : rules.mapM (r.solo index configs) = .ok runs)
    (hnames : (rules.map (·.name)).Nodup) {rule : Rule} (hrule : rule ∈ rules) :
    ∃ o, r.solo index configs rule = .ok o ∧
      (Result.ofRuns runs).violationsFor rule.name = o.own ∧
      (Result.ofRuns runs).errorsFor rule.name = o.error?.toList ∧
      (rule.name ∈ (Result.ofRuns runs).rulesRun ↔ o.ranRule? = some rule.name) := by
  obtain ⟨before, after, rfl⟩ := List.append_of_mem hrule
  obtain ⟨l, o, k, rfl, hl, ho, hk⟩ := Outcome.mapM_append_cons_eq_ok hruns
  rw [List.map_append, List.map_cons, List.nodup_append, List.nodup_cons] at hnames
  obtain ⟨-, ⟨hafter, -⟩, hbefore⟩ := hnames
  refine ⟨o, ho, Result.ofRuns_of_name (becomes_of_solo ho).isOf ?_ ?_⟩
  · intro p hp
    obtain ⟨other, hother, hsolo⟩ := Outcome.exists_of_mem_mapM hl hp
    exact ⟨other.name, hbefore _ (List.mem_map_of_mem hother) _ List.mem_cons_self,
      (becomes_of_solo hsolo).isOf⟩
  · intro p hp
    obtain ⟨other, hother, hsolo⟩ := Outcome.exists_of_mem_mapM hk hp
    refine ⟨other.name, ?_, (becomes_of_solo hsolo).isOf⟩
    intro heq
    exact hafter (heq ▸ List.mem_map_of_mem hother)

theorem exists_runs_of_runLoaded {rules : List Rule} {report : RunReport}
    (h : r.runLoaded loaded rules configs = .ok report) :
    (rules.map (·.name)).Nodup ∧ ∃ d index runs, loaded = .ok d ∧
      Index.build (some d.pages) = .ok index ∧ rules.mapM (r.solo index configs) = .ok runs ∧
      report.result = Result.ofRuns runs := by
  obtain ⟨hnames, d, index, runs, hd, hindex, hruns, rfl⟩ := exists_report_of_runLoaded h
  exact ⟨hnames, d, index, runs, hd, hindex, hruns, result_report index runs⟩

theorem runLoaded_singleton {d : Document} {index : Index Layer} {rule : Rule} {o : RuleRun}
    (hd : loaded = .ok d) (hindex : Index.build (some d.pages) = .ok index)
    (ho : r.solo index configs rule = .ok o) :
    ∃ report, r.runLoaded loaded [rule] configs = .ok report ∧
      report.result = Result.ofRuns [o] := by
  have hnames : ([rule].map (·.name)).Nodup := by simp
  have hresult := result_runLoaded_of_index r configs hd hindex hnames
  have hruns : [rule].mapM (r.solo index configs) = .ok [o] :=
    Outcome.mapM_eq_ok_iff.mpr (.cons ho .nil)
  rw [hruns] at hresult
  exact Outcome.map_eq_ok_iff.mp hresult

/-! ## The law -/

/-- Running two lists of rules fails as the first of the two that fails, and otherwise gives the
results of both, put together. -/
theorem runLoaded_append (A B : List Rule) (hnames : ((A ++ B).map (·.name)).Nodup) :
    (∀ f, r.runLoaded loaded (A ++ B) configs = .error f ↔
      r.runLoaded loaded A configs = .error f ∨
        (∃ a, r.runLoaded loaded A configs = .ok a) ∧ r.runLoaded loaded B configs = .error f) ∧
    (∀ a b, r.runLoaded loaded A configs = .ok a → r.runLoaded loaded B configs = .ok b →
      ∃ ab, r.runLoaded loaded (A ++ B) configs = .ok ab ∧
        ab.result.violations = a.result.violations ++ b.result.violations ∧
        ab.result.errors = a.result.errors ++ b.result.errors ∧
        ab.result.rulesRun = a.result.rulesRun ++ b.result.rulesRun ∧
        ab.result.summary = a.result.summary.add b.result.summary) ∧
    (∀ others : Keyed ConfigInput,
      (∀ rule ∈ A ++ B, others.get? rule.name = configs.get? rule.name) →
      r.runLoaded loaded (A ++ B) others = r.runLoaded loaded (A ++ B) configs) ∧
    (∀ ab, r.runLoaded loaded (A ++ B) configs = .ok ab → ∀ rule ∈ A ++ B,
      ∃ one, r.runLoaded loaded [rule] configs = .ok one ∧
        ab.result.violationsFor rule.name = one.result.violations ∧
        ab.result.errorsFor rule.name = one.result.errors ∧
        (rule.name ∈ ab.result.rulesRun ↔ one.result.rulesRun = [rule.name])) := by
  have hresult := result_append r loaded configs A B hnames
  refine ⟨fun f => ?_, fun a b ha hb => ?_, fun others h => ?_, fun ab hab rule hrule => ?_⟩
  · rw [← Outcome.map_eq_error_iff (f := RunReport.result), hresult]
    cases r.runLoaded loaded A configs with
    | error g => simp [Except.map, bind, Except.bind]
    | ok a =>
      cases r.runLoaded loaded B configs with
      | error g => simp [Except.map, bind, Except.bind]
      | ok b => simp [Except.map, bind, Except.bind, pure, Except.pure]
  · rw [ha, hb] at hresult
    obtain ⟨ab, hab, heq⟩ := Outcome.map_eq_ok_iff.mp hresult
    refine ⟨ab, hab, ?_⟩
    rw [heq]
    exact ⟨rfl, rfl, rfl, rfl⟩
  · exact runLoaded_congr r loaded configs others (A ++ B) h
  · obtain ⟨_, d, index, runs, hd, hindex, hruns, heq⟩ :=
      exists_runs_of_runLoaded r loaded configs hab
    obtain ⟨o, ho, hviolations, herrors, hran⟩ := ofRuns_of_mem r configs hruns hnames hrule
    obtain ⟨one, hone, hsingle⟩ := runLoaded_singleton r loaded configs hd hindex ho
    refine ⟨one, hone, ?_, ?_, ?_⟩
    · rw [heq, hsingle, hviolations]
      simp [Result.ofRuns, Result.build]
    · rw [heq, hsingle, herrors]
      cases he : o.error? <;> simp [Result.ofRuns, Result.build, he]
    · rw [heq, hsingle, hran]
      cases hn : o.ranRule? <;> simp [Result.ofRuns, Result.build, hn]

/-! ## A rule that breaks beside one that does not -/

def samplePage : Layer where
  form := .page
  cls := "page"
  id := "p"
  name := "Page 1"
  frame := ⟨0, 0, 375, 812⟩
  isVisible := true
  flow := none
  style := none
  content := none
  symbol := none

def sampleText : Layer where
  form := .text
  cls := "text"
  id := "t"
  name := "Label"
  frame := ⟨0, 0, 100, 20⟩
  isVisible := true
  flow := none
  style := none
  content := some "Read more…"
  symbol := none

def sampleDocument : Document := ⟨"d", [.node samplePage [.node sampleText []]]⟩

def brokenRule : Rule where
  sort := "Rule"
  name := "broken"
  title := .fixed ""
  description := .fixed ""
  options := []
  check := do
    let _ ← Check.report (.str "half") sampleText.subject .null
    Check.fail (.stated "ValueError" "broken")

def sampleConfigs : Keyed ConfigInput :=
  [(brokenRule.name, .flat (.obj [])), (Ellipsis.name, .flat (.obj []))]

theorem runLoaded_append_sample :
    (([brokenRule] ++ [Ellipsis.rule]).map (·.name)).Nodup ∧
      ∃ a b ab, runLoaded ⟨.warn⟩ (.ok sampleDocument) [brokenRule] sampleConfigs = .ok a ∧
        runLoaded ⟨.warn⟩ (.ok sampleDocument) [Ellipsis.rule] sampleConfigs = .ok b ∧
        runLoaded ⟨.warn⟩ (.ok sampleDocument) ([brokenRule] ++ [Ellipsis.rule]) sampleConfigs =
          .ok ab ∧
        ab.result.violations = a.result.violations ++ b.result.violations ∧
        a.result.errors.length = 1 ∧ b.result.violations.length = 1 := by
  have hnames : (([brokenRule] ++ [Ellipsis.rule]).map (·.name)).Nodup := by decide
  have hlaw := runLoaded_append ⟨.warn⟩ (.ok sampleDocument) sampleConfigs _ _ hnames
  obtain ⟨ab, hab, hviolations, _⟩ := hlaw.2.1 _ _ rfl rfl
  exact ⟨hnames, _, _, ab, rfl, rfl, hab, hviolations, rfl, rfl⟩

end DesignLint.Runner
