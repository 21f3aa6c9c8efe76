import DesignLint.Proofs.Assistant.FileLayer
import DesignLint.Proofs.Assistant.Resolve
import DesignLint.Proofs.Run.Activation

/-!
# Listings and runs

A listing looks at the flag of a rule alone; a run reads the whole configuration first. Still they
agree on the order of the rules, on which are active and on the values of their options.
-/

namespace DesignLint

namespace Engine

variable {e : Engine} {files files' : Files} {m m' : Memory} {overrides : Json}
  {document : Except Document.Source Document} {merged : Keyed (Keyed Json)} {rule : Rule}
  {listing : RuleListing}

/-! ## What a listing says -/

def given (e : Engine) (merged : Keyed (Keyed Json)) (rule : Rule) : ConfigInput :=
  match merged.get? rule.name with
  | some flat => e.input rule.name flat
  | none => .flat (.obj [])

/-- A listing is that of a rule under merged configurations. -/
structure Lists (merged : Keyed (Keyed Json)) (rule : Rule) (listing : RuleListing) : Prop where
  name : listing.name = rule.name
  active : listing.active = true ↔
    ∃ flat, merged.get? rule.name = some flat ∧ RuleConfig.flagIn flat = .bool true
  config : listing.config = (Declaration.defaults rule.options).merge
    (RuleConfig.optionsOf ((merged.get? rule.name).getD []))

theorem flat?_input (e : Engine) (rule : String) (flat : Keyed Json) :
    (e.input rule flat).flat? = some ((e.assistant.misnamed.get? rule).getD [], flat) := by
  unfold input
  split
  · rename_i hkeys
    rw [hkeys]
    rfl
  · rfl

theorem flat?_given (e : Engine) (merged : Keyed (Keyed Json)) (rule : Rule) :
    ∃ keys, (e.given merged rule).flat? = some (keys, (merged.get? rule.name).getD []) := by
  unfold given
  cases merged.get? rule.name with
  | none => exact ⟨[], rfl⟩
  | some flat => exact ⟨_, e.flat?_input rule.name flat⟩

theorem isActiveFlat_iff {flat : Keyed Json} :
    RuleConfig.isActiveFlat flat = true ↔ RuleConfig.flagIn flat = .bool true := by
  unfold RuleConfig.isActiveFlat RuleConfig.flagIn
  cases (flat.get? "active").getD (.bool true) <;> simp

theorem lists_of_listing (h : ((e.listing rule (merged.get? rule.name)).run m).1 = .ok listing) :
    Lists merged rule listing := by
  obtain ⟨texts, m₁, -, h⟩ := Work.exists_of_run_bind h
  obtain ⟨active, m₂, hactive, h⟩ := Work.exists_of_run_bind h
  obtain ⟨options, m₃, -, h⟩ := Work.exists_of_run_bind h
  cases h
  refine ⟨rfl, ?_, rfl⟩
  rw [Work.run_ofResult] at hactive
  dsimp only at hactive
  cases hget : merged.get? rule.name with
  | none =>
    rw [hget] at hactive
    cases hactive
    simp
  | some flat =>
    rw [hget, Option.isSome_some, if_pos rfl, if_pos rfl, Option.getD_some,
      ConfigInput.isActive_of_flat? (e.flat?_input rule.name flat)] at hactive
    cases hactive
    simp [isActiveFlat_iff]

theorem exists_lists_of_describe {listings : List RuleListing}
    (h : ((e.describe files overrides).run m).1 = .ok listings) :
    ∃ merged, ((e.resolve files overrides).run m).1 = .ok merged ∧
      List.Forall₂ (Lists merged) e.assistant.rules listings := by
  obtain ⟨merged, m₁, hmerged, h⟩ := Work.exists_of_run_bind h
  obtain ⟨registry, m₂, hregistry, h⟩ := Work.exists_of_run_bind h
  obtain rfl : registry = ⟨e.assistant.rules⟩ :=
    ((Registry.ofList_eq_ok_iff _ registry).mp hregistry).1
  refine ⟨merged, hmerged, (Work.forall₂_of_run_mapM h).imp ?_⟩
  rintro rule listing ⟨m₃, hlisting⟩
  exact lists_of_listing hlisting

theorem names_of_lists {rules : List Rule} {listings : List RuleListing}
    (h : List.Forall₂ (Lists merged) rules listings) :
    listings.map (·.name) = rules.map (·.name) := by
  induction h with
  | nil => rfl
  | cons hlists _ ih => rw [List.map_cons, List.map_cons, hlists.name, ih]

/-! ## Rules on which they agree -/

/-- A listing of a rule and a result of a run under merged configurations agree. -/
structure Agrees (e : Engine) (merged : Keyed (Keyed Json)) (result : Result) (rule : Rule)
    (listing : RuleListing) : Prop where
  name : listing.name = rule.name
  ran : listing.active = true → rule.name ∈ result.rulesRun
  /-- A rule that is not listed as active only ran to be refused. -/
  refused : listing.active = false → rule.name ∈ result.rulesRun →
    result.violationsFor rule.name = [] ∧
      ∃ error, result.errorsFor rule.name = [error] ∧ error.kind = .optionValidationFailed
  given : ∀ input, Runner.configOf (e.inputs merged) rule.name = some input →
    input = e.given merged rule
  supplied : ∀ flat, (e.given merged rule).flat? = some ([], flat) → RuleConfig.Fits flat →
    ∃ c : RuleConfig, RuleConfig.coerce rule.name (e.given merged rule) = .ok c ∧ c.Says flat ∧
      listing.config.only (Declaration.declares rule.options) =
        OptionValues.supplied rule.options c

theorem configOf_inputs (e : Engine) (merged : Keyed (Keyed Json)) (rule : Rule) :
    Runner.configOf (e.inputs merged) rule.name =
      (merged.get? rule.name).map (e.input rule.name) := by
  cases hget : merged.get? rule.name with
  | none =>
    rw [Runner.configOf, get?_inputs, hget]
    rfl
  | some flat =>
    have hinput : (e.inputs merged).get? rule.name = some (e.input rule.name flat) := by
      rw [get?_inputs, hget]
      rfl
    exact Runner.configOf_of_flat? hinput (e.flat?_input rule.name flat)

theorem given_of_configOf {input : ConfigInput}
    (h : Runner.configOf (e.inputs merged) rule.name = some input) :
    input = e.given merged rule := by
  rw [configOf_inputs] at h
  obtain ⟨flat, hget, rfl⟩ := Option.map_eq_some_iff.mp h
  rw [given, hget]

theorem exists_supplied_of_lists (hlists : Lists merged rule listing) {flat : Keyed Json}
    (hflat : (e.given merged rule).flat? = some ([], flat)) (hfits : RuleConfig.Fits flat) :
    ∃ c : RuleConfig, RuleConfig.coerce rule.name (e.given merged rule) = .ok c ∧ c.Says flat ∧
      listing.config.only (Declaration.declares rule.options) =
        OptionValues.supplied rule.options c := by
  obtain ⟨c, hc, hflatOf⟩ := (ConfigInput.coerce_flat rule.name hflat).1 ⟨rfl, hfits⟩
  obtain ⟨keys, hgiven⟩ := e.flat?_given merged rule
  cases hflat.symm.trans hgiven
  exact ⟨c, hc, hflatOf, by rw [hlists.config, OptionValues.supplied_eq_only, hflatOf.options]⟩

/-- What a run has of a rule that is configured, by what its flag says: the flag decides only when
the other reserved values fit, but then it decides. -/
theorem ran_or_refused {loaded : Except Fault Document} {report : RunReport} {flat : Keyed Json}
    (h : e.runner.runLoaded loaded e.assistant.rules (e.inputs merged) = .ok report)
    (hrule : rule ∈ e.assistant.rules) (hget : merged.get? rule.name = some flat) :
    report.result.Refuses rule.name ∨
      (RuleConfig.flagIn flat = .bool true ∧ rule.name ∈ report.result.rulesRun) ∨
      (RuleConfig.flagIn flat = .bool false ∧ report.result.Lacks rule.name) := by
  have hconfigOf := e.configOf_inputs merged rule
  rw [hget, Option.map_some] at hconfigOf
  have hflat := e.flat?_input rule.name flat
  obtain ⟨hread, hrefused⟩ := ConfigInput.coerce_flat rule.name hflat
  by_cases hfits : (e.assistant.misnamed.get? rule.name).getD [] = [] ∧ RuleConfig.Fits flat
  · obtain ⟨c, hc, hflatOf⟩ := hread hfits
    cases hactive : c.active with
    | true =>
      refine .inr (.inl ⟨hactive ▸ hflatOf.active, ?_⟩)
      exact Runner.mem_rulesRun_of_active h hrule hconfigOf hc hactive
    | false =>
      refine .inr (.inr ⟨hactive ▸ hflatOf.active, ?_⟩)
      exact Runner.lacks_of_skipped h hrule fun _ =>
        Runner.solo_of_inactive hconfigOf hc hactive
  · obtain ⟨problems, hproblems⟩ := hrefused hfits
    exact .inl (Runner.refuses_of_coerce h hrule hconfigOf hproblems)

theorem agrees_of_lists {loaded : Except Fault Document} {report : RunReport}
    (h : e.runner.runLoaded loaded e.assistant.rules (e.inputs merged) = .ok report)
    (hrule : rule ∈ e.assistant.rules) (hlists : Lists merged rule listing) :
    e.Agrees merged report.result rule listing where
  name := hlists.name
  ran hactive := by
    obtain ⟨flat, hget, hflag⟩ := hlists.active.mp hactive
    rcases ran_or_refused h hrule hget with hrefused | ⟨-, hran⟩ | ⟨hfalse, -⟩
    · exact hrefused.ran
    · exact hran
    · cases hflag.symm.trans hfalse
  refused hinactive hran := by
    cases hget : merged.get? rule.name with
    | none =>
      have hnone := e.configOf_inputs merged rule
      rw [hget, Option.map_none] at hnone
      exact absurd hran
        (Runner.lacks_of_skipped h hrule fun _ => Runner.solo_of_unconfigured hnone).ran
    | some flat =>
      rcases ran_or_refused h hrule hget with hrefused | ⟨hflag, -⟩ | ⟨-, hlacks⟩
      · obtain ⟨problems, hproblems⟩ := hrefused.error
        exact ⟨hrefused.violations, _, hproblems, rfl⟩
      · rw [hlists.active.mpr ⟨flat, hget, hflag⟩] at hinactive
        cases hinactive
      · exact absurd hran hlacks.ran
  given _ := given_of_configOf
  supplied _ := exists_supplied_of_lists hlists

/-! ## The law -/

/-- A listing and a run that both return agree on every rule, in the order in which the rules run,
also when one of them comes after the other. -/
theorem listings_agree {listings : List RuleListing} {report : RunReport}
    (hfile : ((e.fileLayer files').run m').1 = ((e.fileLayer files).run m).1)
    (hlistings : ((e.describe files overrides).run m).1 = .ok listings)
    (hreport : ((e.run files' document overrides).run m').1 = .ok report) :
    ∃ merged, ((e.resolve files overrides).run m).1 = .ok merged ∧
      ((e.resolve files' overrides).run m').1 = .ok merged ∧
      listings.map (·.name) = e.assistant.ruleNames ∧
      List.Forall₂ (e.Agrees merged report.result) e.assistant.rules listings := by
  obtain ⟨merged, hmerged, hlists⟩ := exists_lists_of_describe hlistings
  have hmerged' := (resolve_congr hfile overrides).trans hmerged
  rw [run_eq_runLoaded hmerged'] at hreport
  refine ⟨merged, hmerged, hmerged', names_of_lists hlists, ?_⟩
  have hrules : ∀ rule ∈ e.assistant.rules, rule ∈ e.assistant.rules := fun _ h => h
  refine ((List.forall₂_and_left _ _).mpr ⟨hrules, hlists⟩).imp ?_
  rintro rule listing ⟨hrule, hlisting⟩
  exact agrees_of_lists hreport hrule hlisting

def silencedEngine : Engine where
  assistant := {
    name := "a"
    rules := [notingRule, Ellipsis.rule]
    config := [(notingRule.name, .obj [("x", .whole 2), ("y", .null)]),
      (Ellipsis.name, .obj (Runner.silenced "loud"))] }
  configPath := "/rules.json"
  runner := ⟨.warn⟩

theorem listings_agree_silenced :
    ∃ listings report merged,
      ((silencedEngine.describe ⟨[], []⟩ .null).run sampleMemory).1 = .ok listings ∧
      ((silencedEngine.run ⟨["gone"], []⟩ (.ok Runner.sampleDocument) .null).run
        ((silencedEngine.describe ⟨[], []⟩ .null).run sampleMemory).2).1 = .ok report ∧
      List.Forall₂ (silencedEngine.Agrees merged report.result) [notingRule, Ellipsis.rule]
        listings ∧
      listings.map (·.active) = [true, false] ∧
      report.result.rulesRun = [notingRule.name, Ellipsis.name] ∧
      report.result.errors.map (·.rule) = [Ellipsis.name] := by
  have hlistings : ((silencedEngine.describe ⟨[], []⟩ .null).run sampleMemory).1 = .ok _ := rfl
  have hreport : ((silencedEngine.run ⟨["gone"], []⟩ (.ok Runner.sampleDocument) .null).run
      ((silencedEngine.describe ⟨[], []⟩ .null).run sampleMemory).2).1 = .ok _ := rfl
  have hfile : ((silencedEngine.fileLayer ⟨[], []⟩).run sampleMemory).1 = .ok _ := rfl
  have hagain := fileLayer_again hfile
    (silencedEngine.cache_describe ⟨[], []⟩ .null sampleMemory) ⟨["gone"], []⟩
  obtain ⟨merged, -, -, -, hagrees⟩ :=
    listings_agree (hagain.trans hfile.symm) hlistings hreport
  exact ⟨_, _, merged, hlistings, hreport, hagrees, rfl, rfl, rfl⟩

end Engine

end DesignLint
