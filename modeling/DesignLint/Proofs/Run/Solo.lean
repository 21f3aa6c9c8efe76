import DesignLint.Proofs.Check.Session
import DesignLint.Run.Runner

/-! # Rules on their own -/

namespace DesignLint

/-! ## What a rule contributes -/

namespace RuleRun

def own : RuleRun → List Violation
  | settled _ s _ => s.store
  | _ => []

def atop (earlier : Store) : RuleRun → RuleRun
  | settled c s e => settled c (s.atop earlier) e
  | o => o

theorem storeAfter_atop (earlier : Store) (o : RuleRun) :
    (o.atop earlier).storeAfter earlier = earlier ++ o.own := by
  cases o <;> simp [atop, storeAfter, own]

theorem ranRule?_atop (earlier : Store) (o : RuleRun) : (o.atop earlier).ranRule? = o.ranRule? := by
  cases o <;> rfl

theorem error?_atop (earlier : Store) (o : RuleRun) : (o.atop earlier).error? = o.error? := by
  cases o <;> rfl

/-- What rules did one after the other, each over what those before it stored. -/
def chain (store : Store) : List RuleRun → List RuleRun
  | [] => []
  | o :: rest => o.atop store :: chain (store ++ o.own) rest

theorem filterMap_ranRule?_chain (store : Store) (runs : List RuleRun) :
    (chain store runs).filterMap ranRule? = runs.filterMap ranRule? := by
  induction runs generalizing store with
  | nil => rfl
  | cons o rest ih => simp only [chain, List.filterMap_cons, ranRule?_atop, ih]

theorem filterMap_error?_chain (store : Store) (runs : List RuleRun) :
    (chain store runs).filterMap error? = runs.filterMap error? := by
  induction runs generalizing store with
  | nil => rfl
  | cons o rest ih => simp only [chain, List.filterMap_cons, error?_atop, ih]

structure IsOf (name : String) (o : RuleRun) : Prop where
  own : ∀ v ∈ o.own, v.rule = name
  error : ∀ e ∈ o.error?, e.rule = name
  ran : ∀ n ∈ o.ranRule?, n = name

end RuleRun

/-! ## One rule -/

namespace Runner

/-- What a rule does on its own. -/
def solo (r : Runner) (index : Index Layer) (configs : Keyed ConfigInput) (rule : Rule) :
    Except Fault RuleRun :=
  r.runRule index [] (configOf configs rule.name) rule

def contextOf (r : Runner) (index : Index Layer) (rule : Rule) (config : RuleConfig)
    (values : OptionValues) : Context :=
  ⟨rule.name, index, values, config.severity.getD r.severity⟩

@[simp] theorem rule_contextOf (r : Runner) (index : Index Layer) (rule : Rule)
    (config : RuleConfig) (values : OptionValues) :
    (contextOf r index rule config values).rule = rule.name := rfl

def errorOf (rule : String) : Except Fault Unit → Option RuleError
  | .ok () => none
  | .error f => some (.ofFault rule f)

theorem settle_atop (c : Context) (earlier : Store) (check : Check Unit) :
    settle c earlier check = (settle c [] check).map (·.atop earlier) := by
  have hrun := check.run_atop c earlier (Session.start [])
  rw [Session.start_atop] at hrun
  unfold settle
  rw [hrun]
  rcases check.run c (Session.start []) with ⟨_ | f, s⟩
  · rename_i f
    by_cases hf : f.isFatal
    · simp [hf, Except.map]
    · simp only [hf]
      rfl
  · rfl

theorem start_atop (r : Runner) (index : Index Layer) (earlier : Store) (rule : Rule)
    (config : RuleConfig) :
    r.start index earlier rule config = (r.start index [] rule config).map (·.atop earlier) := by
  unfold start
  split
  · rfl
  · split
    · rfl
    · exact settle_atop _ _ _

theorem runRule_atop (r : Runner) (index : Index Layer) (earlier : Store)
    (config : Option ConfigInput) (rule : Rule) :
    r.runRule index earlier config rule =
      (r.runRule index [] config rule).map (·.atop earlier) := by
  unfold runRule
  split
  · rfl
  · split
    · rfl
    · rfl
    · split
      · exact start_atop r index earlier rule _
      · rfl

/-! ## What can become of a rule -/

/-- How a run goes on with a rule over an empty store, and what becomes of it. -/
inductive Becomes (r : Runner) (index : Index Layer) (configs : Keyed ConfigInput) (rule : Rule) :
    RuleRun → Prop
  | unconfigured (hgiven : configOf configs rule.name = none) :
    Becomes r index configs rule (.skipped rule.name .unconfigured)
  | rejected (given : ConfigInput) (f : OptionFault)
    (hgiven : configOf configs rule.name = some given)
    (hconfig : RuleConfig.coerce rule.name given = .error (.option f)) :
    Becomes r index configs rule (.rejected (.ofFault rule.name (.option f)))
  | inactive (given : ConfigInput) (config : RuleConfig)
    (hgiven : configOf configs rule.name = some given)
    (hconfig : RuleConfig.coerce rule.name given = .ok config) (hactive : config.active = false) :
    Becomes r index configs rule (.skipped rule.name .inactive)
  | unstarted (given : ConfigInput) (config : RuleConfig) (schema : Schema) (f : Fault)
    (hgiven : configOf configs rule.name = some given)
    (hconfig : RuleConfig.coerce rule.name given = .ok config) (hactive : config.active = true)
    (hschema : Schema.compile rule.name rule.options = .ok schema)
    (hvalues : OptionValues.check rule.name rule.options schema config = .error f) :
    Becomes r index configs rule (.unstarted (.ofFault rule.name f))
  | settled (given : ConfigInput) (config : RuleConfig) (schema : Schema) (values : OptionValues)
    (yielded : Except Fault Unit) (s : Session)
    (hgiven : configOf configs rule.name = some given)
    (hconfig : RuleConfig.coerce rule.name given = .ok config) (hactive : config.active = true)
    (hschema : Schema.compile rule.name rule.options = .ok schema)
    (hvalues : OptionValues.check rule.name rule.options schema config = .ok values)
    (hrun : rule.check.run (contextOf r index rule config values) (Session.start []) = (yielded, s))
    (hfatal : ∀ f, yielded = .error f → f.isFatal = false) :
    Becomes r index configs rule
      (.settled (contextOf r index rule config values) s.close (errorOf rule.name yielded))

theorem settle_eq_ok {c : Context} {check : Check Unit} {o : RuleRun}
    (h : settle c [] check = .ok o) :
    ∃ yielded s, check.run c (Session.start []) = (yielded, s) ∧
      (∀ f, yielded = .error f → f.isFatal = false) ∧
      o = .settled c s.close (errorOf c.rule yielded) := by
  unfold settle at h
  split at h
  · rename_i s hrun
    cases h
    exact ⟨.ok (), s, hrun, by simp, rfl⟩
  · rename_i f s hrun
    split at h
    · cases h
    · rename_i hfatal
      cases h
      refine ⟨.error f, s, hrun, ?_, rfl⟩
      rintro g ⟨⟩
      simpa using hfatal

theorem becomes_of_solo {r : Runner} {index : Index Layer} {configs : Keyed ConfigInput}
    {rule : Rule} {o : RuleRun} (h : r.solo index configs rule = .ok o) :
    Becomes r index configs rule o := by
  unfold solo runRule at h
  split at h
  · rename_i hgiven
    cases h
    exact .unconfigured hgiven
  · rename_i given hgiven
    split at h
    · rename_i f hconfig
      cases h
      exact .rejected given f hgiven hconfig
    · cases h
    · rename_i config hconfig
      split at h
      · rename_i hactive
        unfold start at h
        split at h
        · cases h
        · rename_i schema hschema
          split at h
          · rename_i f hvalues
            cases h
            exact .unstarted given config schema f hgiven hconfig hactive hschema hvalues
          · rename_i values hvalues
            obtain ⟨yielded, s, hrun, hfatal, rfl⟩ := settle_eq_ok h
            exact .settled given config schema values yielded s hgiven hconfig hactive hschema
              hvalues hrun hfatal
      · rename_i hactive
        cases h
        exact .inactive given config hgiven hconfig (by simpa using hactive)

theorem Becomes.isOf {r : Runner} {index : Index Layer} {configs : Keyed ConfigInput} {rule : Rule}
    {o : RuleRun} (h : Becomes r index configs rule o) : o.IsOf rule.name := by
  cases h with
  | unconfigured => exact ⟨by simp [RuleRun.own], by simp [RuleRun.error?], by simp [RuleRun.ranRule?]⟩
  | rejected given f =>
    exact ⟨by simp [RuleRun.own], by simp [RuleRun.error?, RuleError.ofFault],
      by simp [RuleRun.ranRule?, RuleError.ofFault]⟩
  | inactive => exact ⟨by simp [RuleRun.own], by simp [RuleRun.error?], by simp [RuleRun.ranRule?]⟩
  | unstarted given config schema f =>
    exact ⟨by simp [RuleRun.own], by simp [RuleRun.error?, RuleError.ofFault],
      by simp [RuleRun.ranRule?, RuleError.ofFault]⟩
  | settled given config schema values yielded s _ _ _ _ _ hrun _ =>
    refine ⟨?_, ?_, by simp [RuleRun.ranRule?]⟩
    · intro v hv
      obtain ⟨own, hown⟩ :=
        rule.check.run_grows (contextOf r index rule config values) (Session.start [])
      rw [hrun] at hown
      have hstore : s.store = own := hown.store
      exact hown.named v (hstore ▸ hv)
    · cases yielded with
      | ok a => simp [RuleRun.error?, errorOf]
      | error f => simp [RuleRun.error?, errorOf, RuleError.ofFault]

end Runner

end DesignLint
