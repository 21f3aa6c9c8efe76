import DesignLint.Proofs.Bundled.Criteria
import DesignLint.Proofs.Index.Build
import DesignLint.Proofs.Run.Isolation

/-! # The violations of the bundled rules -/

namespace DesignLint.Bundled

def violationAt (rule : String) (severity : Severity) (message : Layer → String)
    (e : List Nat × Layer) : Violation where
  rule := rule
  message := message e.2
  severity := severity
  nodeId := e.2.id
  nodeName := e.2.name
  nodeClass := e.2.cls
  pointer := some (pointerTo e.1)

theorem map_filter_nodes {ts : List (Tree Layer)} {x : Index Layer}
    (hbuild : Index.build (some ts) = .ok x) (k : Kind) (flags : Layer → Prop)
    [DecidablePred flags] (c : Context) (hindex : c.index = x) (message : Layer → String) :
    ((x.nodes k).filter fun l => flags l).map (fun l => c.violationOf l (message l)) =
      ((Tree.placesAll ts).filter fun e => (view e.2).isOf k ∧ flags e.2).map
        (violationAt c.rule c.severity message) := by
  rw [Index.nodes_of_build hbuild, ← Tree.labels_placesAll, List.filter_map, List.filter_map,
    List.map_map, List.filter_filter]
  have hsame : ∀ e : List Nat × Layer,
      ((((fun l => decide (flags l)) ∘ (·.2)) e && ((fun l => (view l).isOf k) ∘ (·.2)) e) =
        decide ((view e.2).isOf k ∧ flags e.2)) := by
    intro e
    simp [Bool.and_comm]
  rw [List.filter_congr fun e _ => hsame e]
  refine List.map_congr_left fun e he => ?_
  have hpointer := Index.pointerOf?_of_build hbuild (List.mem_of_mem_filter he)
  simp [Context.violationOf, violationAt, hindex, hpointer]

open Classical in
/-- A bundled rule without an error has reported exactly the nodes that its criterion flags, one
violation for each and in pre-order. -/
theorem violations_of_runLoaded {r : Runner} {loaded : Except Fault Document}
    {configs : Keyed ConfigInput} {given : List Rule} {report : RunReport} {c : Criterion}
    (hreport : r.runLoaded loaded given configs = .ok report) (hc : c ∈ criteria)
    (hrule : c.rule ∈ given) (hran : c.rule.name ∈ report.result.rulesRun)
    (hsound : report.result.errorsFor c.rule.name = []) :
    ∃ d input config values p message, loaded = .ok d ∧
      Runner.configOf configs c.rule.name = some input ∧
      RuleConfig.coerce c.rule.name input = .ok config ∧
      OptionValues.resolve c.rule.name c.rule.options config = .ok values ∧ c.Reads values p ∧
      report.result.violationsFor c.rule.name =
        ((Tree.placesAll d.pages).filter fun e => (view e.2).isOf c.kind ∧ c.Flags p e.2).map
          (violationAt c.rule.name (config.severity.getD r.severity) message) := by
  obtain ⟨hnames, d, index, runs, hd, hbuild, hruns, hresult⟩ :=
    Runner.exists_runs_of_runLoaded r loaded configs hreport
  obtain ⟨o, ho, hviolations, herrors, hattempted⟩ :=
    Runner.ofRuns_of_mem r configs hruns hnames hrule
  rw [hresult] at hran hsound ⊢
  have hname := hattempted.mp hran
  have hnone : o.error? = none := by
    rw [herrors] at hsound
    exact Option.toList_eq_nil_iff.mp hsound
  rw [hviolations]
  cases Runner.becomes_of_solo ho with
  | unconfigured => cases hname
  | rejected => cases hnone
  | inactive => cases hname
  | unstarted => cases hnone
  | settled input config schema values yielded s hgiven hconfig hactive hschema hvalues hrun =>
    cases yielded with
    | error f => cases hnone
    | ok a =>
      obtain ⟨verdict, hjudged⟩ := exists_judgedBy c hc
      obtain ⟨p, hreads, hjudge⟩ := hjudged.reads rfl hrun
      have hid : ∀ l ∈ index.nodes c.kind, l.id ≠ "" := by
        intro l hl
        rw [Index.nodes_of_build hbuild] at hl
        exact id_ne_of_indexable (Index.indexable_of_build hbuild).1 (List.mem_of_mem_filter hl)
      obtain ⟨message, hstore⟩ := Check.run_judge_flagged (hjudged.flags p) hid rfl hjudge
      refine ⟨d, input, config, values, p, message, hd, hgiven, hconfig, ?_, hreads, ?_⟩
      · rw [OptionValues.resolve, hschema]
        exact hvalues
      · have hplaces := map_filter_nodes hbuild c.kind (c.Flags p)
          (Runner.contextOf r index c.rule config values) rfl message
        exact hstore.trans hplaces

open Classical in
theorem violations_of_runLoaded_sample :
    ∃ report, Runner.runLoaded ⟨.warn⟩ (.ok Runner.sampleDocument) [Ellipsis.rule]
        Runner.sampleConfigs = .ok report ∧
      Ellipsis.name ∈ report.result.rulesRun ∧ report.result.errorsFor Ellipsis.name = [] ∧
      (report.result.violationsFor Ellipsis.name).map (·.nodeId) = ["t"] ∧
      ∃ d message, Except.ok Runner.sampleDocument = (.ok d : Except Fault Document) ∧
        report.result.violationsFor Ellipsis.name =
          ((Tree.placesAll d.pages).filter fun e =>
            (view e.2).isOf .text ∧ ellipsisCriterion.Flags () e.2).map
              (violationAt Ellipsis.name .warn message) := by
  have hreport : Runner.runLoaded ⟨.warn⟩ (.ok Runner.sampleDocument) [Ellipsis.rule]
      Runner.sampleConfigs = .ok _ := rfl
  have hran : Ellipsis.name ∈ [Ellipsis.name] := List.mem_singleton_self _
  obtain ⟨d, input, config, values, p, message, hd, hinput, hconfig, _, _, hviolations⟩ :=
    violations_of_runLoaded (c := ellipsisCriterion) hreport (by simp [criteria])
      (by simp [ellipsisCriterion]) hran rfl
  refine ⟨_, hreport, hran, rfl, rfl, d, message, hd, ?_⟩
  cases hinput
  cases hconfig
  exact hviolations

end DesignLint.Bundled
