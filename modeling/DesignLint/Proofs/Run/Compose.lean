import DesignLint.Proofs.Run.Solo

/-! # Runs of several rules -/

namespace DesignLint

/-! ## Results put together -/

namespace Result

def append (a b : Result) : Result where
  violations := a.violations ++ b.violations
  errors := a.errors ++ b.errors
  summary := a.summary.add b.summary
  rulesRun := a.rulesRun ++ b.rulesRun

/-- The result of what rules did on their own. -/
def ofRuns (runs : List RuleRun) : Result :=
  build (runs.flatMap RuleRun.own) (runs.filterMap RuleRun.error?)
    (runs.filterMap RuleRun.ranRule?)

theorem ofRuns_append (l m : List RuleRun) : ofRuns (l ++ m) = (ofRuns l).append (ofRuns m) := by
  simp [ofRuns, append, build, Summary.ofViolations_append]

theorem violationsFor_append (a b : Result) (name : String) :
    (a.append b).violationsFor name = a.violationsFor name ++ b.violationsFor name := by
  simp [violationsFor, append]

theorem errorsFor_append (a b : Result) (name : String) :
    (a.append b).errorsFor name = a.errorsFor name ++ b.errorsFor name := by
  simp [errorsFor, append]

theorem ofRuns_of_others {name : String} {runs : List RuleRun}
    (h : ∀ o ∈ runs, ∃ n, n ≠ name ∧ o.IsOf n) :
    (ofRuns runs).violationsFor name = [] ∧ (ofRuns runs).errorsFor name = [] ∧
      name ∉ (ofRuns runs).rulesRun := by
  refine ⟨?_, ?_, ?_⟩
  · refine List.filter_eq_nil_iff.mpr fun v hv => ?_
    obtain ⟨o, ho, hmem⟩ := List.mem_flatMap.mp hv
    obtain ⟨n, hn, hof⟩ := h o ho
    simpa [hof.own v hmem] using hn
  · refine List.filter_eq_nil_iff.mpr fun e he => ?_
    obtain ⟨o, ho, hmem⟩ := List.mem_filterMap.mp he
    obtain ⟨n, hn, hof⟩ := h o ho
    simpa [hof.error e hmem] using hn
  · intro hran
    obtain ⟨o, ho, hmem⟩ := List.mem_filterMap.mp hran
    obtain ⟨n, hn, hof⟩ := h o ho
    exact hn (hof.ran name hmem).symm

theorem ofRuns_singleton {name : String} {o : RuleRun} (h : o.IsOf name) :
    (ofRuns [o]).violationsFor name = o.own ∧ (ofRuns [o]).errorsFor name = o.error?.toList ∧
      (name ∈ (ofRuns [o]).rulesRun ↔ o.ranRule? = some name) := by
  refine ⟨?_, ?_, ?_⟩
  · have hall : ∀ v ∈ o.own, decide (v.rule = name) = true := fun v hv => by simp [h.own v hv]
    simpa [violationsFor, ofRuns, build] using List.filter_eq_self.mpr hall
  · cases he : o.error? with
    | none => simp [errorsFor, ofRuns, build, he]
    | some e => simp [errorsFor, ofRuns, build, he, h.error e he]
  · cases hn : o.ranRule? with
    | none => simp [ofRuns, build, hn]
    | some n => simp [ofRuns, build, hn, eq_comm]

theorem ofRuns_of_name {name : String} {before after : List RuleRun} {o : RuleRun}
    (ho : o.IsOf name) (hbefore : ∀ p ∈ before, ∃ n, n ≠ name ∧ p.IsOf n)
    (hafter : ∀ p ∈ after, ∃ n, n ≠ name ∧ p.IsOf n) :
    (ofRuns (before ++ o :: after)).violationsFor name = o.own ∧
      (ofRuns (before ++ o :: after)).errorsFor name = o.error?.toList ∧
      (name ∈ (ofRuns (before ++ o :: after)).rulesRun ↔ o.ranRule? = some name) := by
  have hsplit : ofRuns (before ++ o :: after) =
      (ofRuns before).append ((ofRuns [o]).append (ofRuns after)) := by
    rw [ofRuns_append, ← List.singleton_append, ofRuns_append]
  obtain ⟨hv, he, hr⟩ := ofRuns_of_others hbefore
  obtain ⟨hv', he', hr'⟩ := ofRuns_of_others hafter
  obtain ⟨hov, hoe, hor⟩ := ofRuns_singleton ho
  rw [hsplit]
  refine ⟨?_, ?_, ?_⟩
  · rw [violationsFor_append, violationsFor_append, hv, hv', hov]
    simp
  · rw [errorsFor_append, errorsFor_append, he, he', hoe]
    simp
  · rw [← hor]
    simp [append, hr, hr']

end Result

/-! ## Registries -/

theorem Registry.contains_iff {r : Registry} {name : String} :
    r.contains name = true ↔ name ∈ r.names := List.contains_iff_mem

theorem Registry.register_of_mem {r : Registry} {rule : Rule} (h : rule.name ∈ r.names) :
    r.register rule = .error (.duplicateRule rule.name) := by
  rw [register, if_pos (contains_iff.mpr h)]

theorem Registry.register_of_notMem {r : Registry} {rule : Rule} (h : rule.name ∉ r.names) :
    r.register rule = .ok ⟨r.rules ++ [rule]⟩ := by
  rw [register, if_neg (mt contains_iff.mp h)]

theorem Registry.foldlM_register_iff (taken rules : List Rule) (registry : Registry)
    (htaken : (taken.map (·.name)).Nodup) :
    rules.foldlM register ⟨taken⟩ = .ok registry ↔
      registry = ⟨taken ++ rules⟩ ∧ ((taken ++ rules).map (·.name)).Nodup := by
  induction rules generalizing taken with
  | nil =>
    simp only [List.foldlM_nil, List.append_nil, htaken, and_true]
    exact ⟨fun h => (Except.ok.inj h).symm, fun h => congrArg Except.ok h.symm⟩
  | cons rule rest ih =>
    rw [List.foldlM_cons, Outcome.bind_eq_ok_iff]
    by_cases hold : rule.name ∈ taken.map (·.name)
    · have hmore : ¬ ((taken ++ rule :: rest).map (·.name)).Nodup := by
        rw [List.map_append, List.nodup_append]
        rintro ⟨_, _, hne⟩
        exact hne _ hold _ (by simp) rfl
      have hreg : register ⟨taken⟩ rule = .error (.duplicateRule rule.name) := register_of_mem hold
      constructor
      · rintro ⟨next, h, _⟩
        rw [hreg] at h
        cases h
      · rintro ⟨_, h⟩
        exact absurd h hmore
    · have hreg : register ⟨taken⟩ rule = .ok ⟨taken ++ [rule]⟩ := register_of_notMem hold
      have hnext : ((taken ++ [rule]).map (·.name)).Nodup := by
        rw [List.map_append, List.nodup_append]
        refine ⟨htaken, by simp, ?_⟩
        rintro n hn m hm rfl
        rw [List.map_singleton, List.mem_singleton] at hm
        exact hold (hm ▸ hn)
      simp [hreg, ih (taken ++ [rule]) hnext]

theorem Registry.ofList_eq_ok_iff (rules : List Rule) (registry : Registry) :
    ofList rules = .ok registry ↔ registry = ⟨rules⟩ ∧ (rules.map (·.name)).Nodup :=
  foldlM_register_iff [] rules registry .nil

namespace Runner

/-! ## Rules in order -/

/-- Rules over one store do what each does on its own. -/
theorem runRules_eq (r : Runner) (index : Index Layer) (configs : Keyed ConfigInput)
    (store : Store) (rules : List Rule) :
    r.runRules index configs store rules =
      (rules.mapM (r.solo index configs)).map fun runs =>
        (RuleRun.chain store runs, store ++ runs.flatMap RuleRun.own) := by
  induction rules generalizing store with
  | nil => simp [runRules, RuleRun.chain, pure, Except.pure, Except.map]
  | cons rule rest ih =>
    rw [runRules, runRule_atop, List.mapM_cons]
    change (Except.map _ (r.solo index configs rule) >>= _) = _
    cases r.solo index configs rule with
    | error f => rfl
    | ok o =>
      -- The rest runs over the store that `o` leaves, for which the induction holds as for any other.
      simp only [Except.map, bind, Except.bind, RuleRun.storeAfter_atop, ih]
      cases rest.mapM (r.solo index configs) with
      | error f => rfl
      | ok runs => simp [pure, Except.pure, RuleRun.chain]

theorem result_report (index : Index Layer) (runs : List RuleRun) :
    (report index (RuleRun.chain [] runs) (runs.flatMap RuleRun.own)).result =
      Result.ofRuns runs := by
  simp only [report, Result.ofRuns, RuleRun.filterMap_error?_chain,
    RuleRun.filterMap_ranRule?_chain]

theorem exists_report_of_runLoaded {r : Runner} {loaded : Except Fault Document} {rules : List Rule}
    {configs : Keyed ConfigInput} {report : RunReport}
    (h : r.runLoaded loaded rules configs = .ok report) :
    (rules.map (·.name)).Nodup ∧ ∃ d index runs, loaded = .ok d ∧
      Index.build (some d.pages) = .ok index ∧ rules.mapM (r.solo index configs) = .ok runs ∧
      report = Runner.report index (RuleRun.chain [] runs) (runs.flatMap RuleRun.own) := by
  obtain ⟨registry, hregistry, h⟩ := Outcome.bind_eq_ok_iff.mp h
  obtain ⟨rfl, hnames⟩ := (Registry.ofList_eq_ok_iff rules registry).mp hregistry
  obtain ⟨d, hd, h⟩ := Outcome.bind_eq_ok_iff.mp h
  obtain ⟨index, hindex, h⟩ := Outcome.bind_eq_ok_iff.mp h
  obtain ⟨⟨chained, store⟩, hruns, heq⟩ := Outcome.bind_eq_ok_iff.mp h
  rw [runRules_eq] at hruns
  obtain ⟨runs, hsolos, hchained⟩ := Outcome.map_eq_ok_iff.mp hruns
  cases hchained
  exact ⟨hnames, d, index, runs, hd, hindex, hsolos, (Except.ok.inj heq).symm⟩

def indexed (loaded : Except Fault Document) : Except Fault (Index Layer) :=
  loaded.bind fun d => Index.build (some d.pages)

theorem result_runLoaded (r : Runner) (loaded : Except Fault Document) (rules : List Rule)
    (configs : Keyed ConfigInput) (hnames : (rules.map (·.name)).Nodup) :
    (r.runLoaded loaded rules configs).map (·.result) =
      (indexed loaded).bind fun index => (rules.mapM (r.solo index configs)).map Result.ofRuns := by
  have hregistry : Registry.ofList rules = .ok ⟨rules⟩ :=
    (Registry.ofList_eq_ok_iff rules ⟨rules⟩).mpr ⟨rfl, hnames⟩
  rw [runLoaded, hregistry]
  cases loaded with
  | error f => rfl
  | ok d =>
    simp only [indexed, runDocument, bind, Except.bind]
    cases Index.build (some d.pages) with
    | error f => rfl
    | ok index =>
      simp only [runRules_eq]
      cases rules.mapM (r.solo index configs) with
      | error f => rfl
      | ok runs =>
        simp only [Except.map, pure, Except.pure, List.nil_append, result_report]

theorem result_runLoaded_of_index {loaded : Except Fault Document} {d : Document}
    {index : Index Layer} {rules : List Rule} (r : Runner) (configs : Keyed ConfigInput)
    (hd : loaded = .ok d) (hindex : Index.build (some d.pages) = .ok index)
    (hnames : (rules.map (·.name)).Nodup) :
    (r.runLoaded loaded rules configs).map (·.result) =
      (rules.mapM (r.solo index configs)).map Result.ofRuns := by
  have hindexed : indexed loaded = .ok index := by rw [hd]; exact hindex
  rw [result_runLoaded r loaded rules configs hnames, hindexed]
  rfl

end Runner

end DesignLint
