import DesignLint.Proofs.Check.Accepted
import DesignLint.Proofs.Run.Isolation

/-! # Checks that are invoked -/

namespace DesignLint

theorem RuleRun.exists_of_mem_chain {store : Store} {runs : List RuleRun} {p : RuleRun}
    (h : p ∈ chain store runs) : ∃ o ∈ runs, ∃ earlier, p = o.atop earlier := by
  induction runs generalizing store with
  | nil => cases h
  | cons o rest ih =>
    rcases List.mem_cons.mp h with rfl | h
    · exact ⟨o, List.mem_cons_self, store, rfl⟩
    · obtain ⟨q, hq, hp⟩ := ih h
      exact ⟨q, List.mem_cons_of_mem o hq, hp⟩

namespace Runner

/-- The check of a rule is invoked in a context: the rule is active under its configuration, and the
options there fit. -/
structure Invokes (r : Runner) (index : Index Layer) (configs : Keyed ConfigInput) (rule : Rule)
    (config : RuleConfig) (c : Context) : Prop where
  given : ∃ input, configOf configs rule.name = some input ∧
    RuleConfig.coerce rule.name input = .ok config
  active : config.active = true
  options : OptionValues.resolve rule.name rule.options config = .ok c.options
  context : c = contextOf r index rule config c.options

variable {r : Runner} {index : Index Layer} {configs : Keyed ConfigInput} {rule : Rule}
  {config : RuleConfig} {c : Context} {o : RuleRun}

theorem resolve_eq_ok_iff {rule : String} {declared : List Declaration} {config : RuleConfig}
    {values : OptionValues} : OptionValues.resolve rule declared config = .ok values ↔
      ∃ schema, Schema.compile rule declared = .ok schema ∧
        OptionValues.check rule declared schema config = .ok values :=
  Outcome.bind_eq_ok_iff

namespace Invokes

theorem index_eq (h : Invokes r index configs rule config c) : c.index = index := by
  rw [h.context]
  rfl

theorem rule_eq (h : Invokes r index configs rule config c) : c.rule = rule.name := by
  rw [h.context]
  rfl

theorem severity_eq (h : Invokes r index configs rule config c) :
    c.severity = config.severity.getD r.severity := by
  rw [h.context]
  rfl

theorem solo_eq (h : Invokes r index configs rule config c) :
    r.solo index configs rule = settle c [] rule.check := by
  obtain ⟨input, hinput, hconfig⟩ := h.given
  obtain ⟨schema, hschema, hvalues⟩ := resolve_eq_ok_iff.mp h.options
  conv_rhs => rw [h.context]
  simp only [solo, runRule, hinput, hconfig, h.active, if_true, start, hschema, hvalues]
  rfl

theorem own_eq (h : Invokes r index configs rule config c)
    (ho : r.solo index configs rule = .ok o) :
    o.own = (rule.check.accepted c (Session.start [])).map (·.violation) := by
  rw [h.solo_eq] at ho
  obtain ⟨yielded, s, hrun, -, rfl⟩ := settle_eq_ok ho
  have hstore := rule.check.store_run c (Session.start [])
  rw [hrun] at hstore
  exact hstore

end Invokes

theorem exists_invokes_of_solo {s : Session} {error : Option RuleError}
    (ho : r.solo index configs rule = .ok (.settled c s error)) :
    ∃ config, Invokes r index configs rule config c := by
  cases becomes_of_solo ho with
  | settled input config schema values yielded s hinput hconfig hactive hschema hvalues =>
    exact ⟨config, {
      given := ⟨input, hinput, hconfig⟩
      active := hactive
      options := resolve_eq_ok_iff.mpr ⟨schema, hschema, hvalues⟩
      context := rfl }⟩

theorem exists_invokes_of_own (ho : r.solo index configs rule = .ok o) (hown : o.own ≠ []) :
    ∃ config c, Invokes r index configs rule config c := by
  cases o with
  | settled c s error =>
    obtain ⟨config, hinvokes⟩ := exists_invokes_of_solo ho
    exact ⟨config, c, hinvokes⟩
  | _ => exact absurd rfl hown

theorem exists_invokes_of_settled {loaded : Except Fault Document} {rules : List Rule}
    {report : RunReport} {s : Session} {error : Option RuleError}
    (h : r.runLoaded loaded rules configs = .ok report)
    (hc : RuleRun.settled c s error ∈ report.runs) :
    ∃ rule ∈ rules, ∃ config, Invokes r c.index configs rule config c ∧
      ∃ store, settle c store rule.check = .ok (.settled c s error) := by
  obtain ⟨-, d, index, runs, -, -, hsolos, rfl⟩ := exists_report_of_runLoaded h
  obtain ⟨o, ho, earlier, hatop⟩ := RuleRun.exists_of_mem_chain hc
  obtain ⟨rule, hrule, hsolo⟩ := Outcome.exists_of_mem_mapM hsolos ho
  cases o with
  | settled c' s' error' =>
    cases hatop
    obtain ⟨config, hinvokes⟩ := exists_invokes_of_solo hsolo
    rw [hinvokes.index_eq]
    refine ⟨rule, hrule, config, hinvokes, earlier, ?_⟩
    rw [settle_atop, ← hinvokes.solo_eq, hsolo]
    rfl
  | _ => cases hatop

end Runner

end DesignLint
