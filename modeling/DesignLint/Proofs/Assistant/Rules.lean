import DesignLint.Proofs.Assistant.History
import DesignLint.Proofs.Run.Activation

/-! # Rules that come and go -/

namespace DesignLint

namespace Keyed

variable {α : Type} {m : Keyed α} {k : String}

theorem erase_put (m : Keyed α) (k : String) (v : α) : (m.put k v).erase k = m.erase k := by
  induction m with
  | nil => simp [put, erase]
  | cons e m ih =>
    unfold erase at ih ⊢
    rw [put]
    by_cases hk : e.1 = k
    · simp [hk]
    · rw [if_neg hk, List.filter_cons, List.filter_cons, ih]

theorem erase_eq_self (h : k ∉ m.keys) : m.erase k = m := by
  refine List.filter_eq_self.mpr fun e he => ?_
  have hne : e.1 ≠ k := fun heq => h (heq ▸ List.mem_map_of_mem he)
  simpa using hne

end Keyed

/-! ## One rule -/

namespace Assistant

variable {a : Assistant} {rule : Rule}

theorem addGiven_of_mem (h : rule.name ∈ a.ruleNames) (given : Given) :
    a.addGiven rule given = (.error (.duplicateRule rule.name), a) := by
  rw [addGiven, if_pos (List.contains_iff_mem.mpr h)]

theorem rules_addGiven_of_notMem (h : rule.name ∉ a.ruleNames) (given : Given) :
    (a.addGiven rule given).2.rules = a.rules ++ [rule] := by
  rw [addGiven, if_neg (mt List.contains_iff_mem.mp h)]
  split <;> rfl

theorem addGiven_succeeds (h : rule.name ∉ a.ruleNames) {given : Given}
    (hgiven : ∀ f, given ≠ .value (.error f)) : (a.addGiven rule given).1 = .ok () := by
  rw [addGiven, if_neg (mt List.contains_iff_mem.mp h)]
  split
  · rfl
  · rfl
  · rename_i f
    exact absurd rfl (hgiven f)

theorem Given.ofJson_ne_error {config : Json}
    (h : config = .null ∨ ∃ pairs, mapping config = .ok pairs) (f : Fault) :
    ofJson config ≠ .value (.error f) := by
  rcases h with rfl | ⟨pairs, hpairs⟩
  · rintro ⟨⟩
  · rw [ofJson.eq_def]
    split
    · rintro ⟨⟩
    · rw [hpairs]
      rintro ⟨⟩

theorem rules_remove_of_notMem {name : String} (h : name ∉ a.ruleNames) :
    (a.remove name).rules = a.rules := by
  refine List.filter_eq_self.mpr fun rule hrule => ?_
  have hne : rule.name ≠ name := fun heq => h (heq ▸ List.mem_map_of_mem hrule)
  simpa using hne

theorem remove_of_notMem {name : String} (hrules : name ∉ a.ruleNames)
    (hconfig : name ∉ a.config.keys) (hmisnamed : name ∉ a.misnamed.keys) : a.remove name = a := by
  rw [remove, Keyed.erase_eq_self hconfig, Keyed.erase_eq_self hmisnamed]
  exact congrArg (fun rules => { a with rules }) (rules_remove_of_notMem hrules)

theorem remove_addGiven (a : Assistant) (rule : Rule) (given : Given) :
    (a.addGiven rule given).2.remove rule.name = a.remove rule.name := by
  have hrules : (a.rules ++ [rule]).filter (·.name ≠ rule.name) =
      a.rules.filter (·.name ≠ rule.name) := by simp
  by_cases h : rule.name ∈ a.ruleNames
  · rw [addGiven_of_mem h]
  · rw [addGiven, if_neg (mt List.contains_iff_mem.mp h)]
    split <;> simp only [remove, hrules, Keyed.erase_put]

end Assistant

/-! ## Results without a name -/

theorem Runner.lacks_of_notMem {r : Runner} {loaded : Except Fault Document} {rules : List Rule}
    {configs : Keyed ConfigInput} {report : RunReport} {name : String}
    (h : r.runLoaded loaded rules configs = .ok report) (hname : name ∉ rules.map (·.name)) :
    report.result.Lacks name := by
  obtain ⟨-, d, index, runs, -, -, hruns, hresult⟩ := exists_runs_of_runLoaded r loaded configs h
  have hothers : ∀ o ∈ runs, ∃ n, n ≠ name ∧ o.IsOf n := by
    intro o ho
    obtain ⟨rule, hrule, hsolo⟩ := Outcome.exists_of_mem_mapM hruns ho
    exact ⟨rule.name, fun heq => hname (heq ▸ List.mem_map_of_mem hrule),
      (becomes_of_solo hsolo).isOf⟩
  obtain ⟨hviolations, herrors, hran⟩ := Result.ofRuns_of_others hothers
  rw [hresult]
  exact ⟨hviolations, herrors, hran⟩

namespace Engine

variable {e : Engine} {files : Files} {m : Memory} {overrides : Json} {name : String}

theorem keys_mergeLayer {merged merged' : Keyed (Keyed Json)} {layer : Keyed Json}
    (hmerged : name ∉ merged.keys) (hname : name ∉ e.assistant.ruleNames)
    (h : ((e.mergeLayer merged layer).run m).1 = .ok merged') : name ∉ merged'.keys := by
  induction layer generalizing merged m with
  | nil =>
    cases h
    exact hmerged
  | cons entry rest ih =>
    obtain ⟨next, m₁, hnext, h⟩ := Work.exists_of_run_bind h
    refine ih ?_ h
    unfold mergeEntry at hnext
    split at hnext
    · cases hnext
      exact hmerged
    · rename_i hknown
      split at hnext
      · cases hnext
        have hne : name ≠ entry.1 := by
          rintro rfl
          exact hname (by simpa using hknown)
        rw [Keyed.keys_put]
        split
        · exact hmerged
        · simp [hmerged, hne]
      · cases hnext

theorem keys_resolve {merged : Keyed (Keyed Json)} (hname : name ∉ e.assistant.ruleNames)
    (h : ((e.resolve files overrides).run m).1 = .ok merged) : name ∉ merged.keys := by
  obtain ⟨file, m₁, -, h⟩ := Work.exists_of_run_bind h
  obtain ⟨own, m₂, hown, h⟩ := Work.exists_of_run_bind h
  obtain ⟨more, m₃, hmore, h⟩ := Work.exists_of_run_bind h
  obtain ⟨given, m₄, -, h⟩ := Work.exists_of_run_bind h
  exact keys_mergeLayer (keys_mergeLayer (keys_mergeLayer List.not_mem_nil hname hown) hname hmore)
    hname h

theorem exists_runLoaded_of_run {document : Except Document.Source Document} {report : RunReport}
    (h : ((e.run files document overrides).run m).1 = .ok report) :
    ∃ merged, ((e.resolve files overrides).run m).1 = .ok merged ∧
      e.runner.runLoaded (loaded document) e.assistant.rules (e.inputs merged) = .ok report := by
  have hrun := h
  rw [Engine.run.eq_def, Work.run_ofResult_bind] at hrun
  obtain ⟨registry, -, hrun⟩ := Outcome.bind_eq_ok_iff.mp hrun
  obtain ⟨merged, m₁, hmerged, -⟩ := Work.exists_of_run_bind hrun
  exact ⟨merged, hmerged, (run_eq_runLoaded hmerged document).symm.trans h⟩

/-- Whatever the configuration file and the overrides say, nothing comes of a name. -/
structure Lacks (e : Engine) (name : String) : Prop where
  configs : ∀ files overrides m merged,
    ((e.resolve files overrides).run m).1 = .ok merged → name ∉ merged.keys
  results : ∀ files document overrides m report,
    ((e.run files document overrides).run m).1 = .ok report → report.result.Lacks name

theorem lacks_of_notMem (h : name ∉ e.assistant.ruleNames) : e.Lacks name where
  configs _ _ _ _ hmerged := keys_resolve h hmerged
  results _ _ _ _ _ hreport := by
    obtain ⟨merged, -, hreport⟩ := exists_runLoaded_of_run hreport
    exact Runner.lacks_of_notMem hreport h

/-! ## Deeds -/

inductive Deed
  | add (rule : Rule) (config : Json)
  | remove (name : String)
  /-- Something else is done, and the rules are left alone. -/
  | meanwhile (event : Event)

def Deed.removes (name : String) : Deed → Bool
  | .remove n => n = name
  | _ => false

structure State where
  engine : Engine
  world : World

namespace State

def assistant (s : State) : Assistant := s.engine.assistant

def withAssistant (s : State) (a : Assistant) : State :=
  { s with engine := { s.engine with assistant := a } }

def after (s : State) : Deed → State
  | .add rule config => s.withAssistant (s.assistant.add rule config).2
  | .remove name => s.withAssistant (s.assistant.remove name)
  | .meanwhile event => { s with world := s.world.after s.engine event }

def afterAll (s : State) (deeds : List Deed) : State := deeds.foldl after s

/-- The rule that comes with a deed, unless its name is taken. -/
def newcomer? (s : State) : Deed → Option Rule
  | .add rule _ => if rule.name ∈ s.assistant.ruleNames then none else some rule
  | _ => none

end State

structure Arrival where
  rule : Rule
  since : List Deed

namespace Arrival

/-- Whether the rule was not removed since it came. -/
def stays (a : Arrival) : Bool := !a.since.any (Deed.removes a.rule.name)

theorem stays_cons (rule : Rule) (deed : Deed) (rest : List Deed) :
    stays ⟨rule, deed :: rest⟩ = (!deed.removes rule.name && stays ⟨rule, rest⟩) := by
  simp [stays]

end Arrival

namespace State

variable {s : State} {deed : Deed} {deeds : List Deed}

def added (s : State) : List Deed → List Arrival
  | [] => []
  | deed :: rest => (s.newcomer? deed).toList.map (⟨·, rest⟩) ++ (s.after deed).added rest

def arrivals (s : State) (deeds : List Deed) : List Arrival :=
  s.assistant.rules.map (⟨·, deeds⟩) ++ s.added deeds

/-! ## One deed -/

theorem rules_after (s : State) (deed : Deed) :
    (s.after deed).assistant.rules =
      s.assistant.rules.filter (fun rule => !deed.removes rule.name) ++
        (s.newcomer? deed).toList := by
  cases deed with
  | add rule config =>
    have hkept : s.assistant.rules.filter (fun r => !(Deed.add rule config).removes r.name) =
        s.assistant.rules := List.filter_eq_self.mpr fun _ _ => rfl
    change (s.assistant.add rule config).2.rules = _
    rw [hkept, newcomer?]
    split
    · rename_i htaken
      rw [Assistant.add, Assistant.addGiven_of_mem htaken, Option.toList_none, List.append_nil]
    · rename_i hnew
      rw [Assistant.add, Assistant.rules_addGiven_of_notMem hnew, Option.toList_some]
  | remove name =>
    change s.assistant.rules.filter (·.name ≠ name) = _
    simp [Deed.removes, newcomer?, eq_comm]
  | meanwhile event =>
    have hkept : s.assistant.rules.filter (fun r => !(Deed.meanwhile event).removes r.name) =
        s.assistant.rules := List.filter_eq_self.mpr fun _ _ => rfl
    rw [hkept]
    exact (List.append_nil _).symm

theorem ruleNames_after (s : State) (deed : Deed) :
    (s.after deed).assistant.ruleNames =
      s.assistant.ruleNames.filter (fun name => !deed.removes name) ++
        (s.newcomer? deed).toList.map (·.name) := by
  rw [Assistant.ruleNames, rules_after, List.map_append, Assistant.ruleNames, List.filter_map]
  rfl

theorem newcomer?_eq_some_iff {rule : Rule} : s.newcomer? deed = some rule ↔
    rule.name ∉ s.assistant.ruleNames ∧ ∃ config, deed = .add rule config := by
  cases deed with
  | add given config =>
    rw [newcomer?]
    split
    · rename_i htaken
      simp only [reduceCtorEq, Deed.add.injEq, false_iff]
      rintro ⟨hnew, -, rfl, -⟩
      exact hnew htaken
    · rename_i hnew
      simp only [Option.some.injEq, Deed.add.injEq]
      constructor
      · rintro rfl
        exact ⟨hnew, config, rfl, rfl⟩
      · rintro ⟨-, -, rfl, -⟩
        rfl
  | _ => simp [newcomer?]

theorem nodup_ruleNames_after (h : s.assistant.ruleNames.Nodup) (deed : Deed) :
    (s.after deed).assistant.ruleNames.Nodup := by
  rw [ruleNames_after]
  cases hcomes : s.newcomer? deed with
  | none =>
    rw [Option.toList_none, List.map_nil, List.append_nil]
    exact h.filter _
  | some rule =>
    have hnew := (newcomer?_eq_some_iff.mp hcomes).1
    rw [Option.toList_some, List.map_singleton, List.nodup_append_comm]
    exact List.nodup_cons.mpr ⟨fun hmem => hnew (List.mem_of_mem_filter hmem), h.filter _⟩

theorem notMem_ruleNames_after {name : String} (h : name ∉ s.assistant.ruleNames)
    (hadd : ∀ rule config, deed = .add rule config → rule.name ≠ name) :
    name ∉ (s.after deed).assistant.ruleNames := by
  rw [ruleNames_after, List.mem_append, not_or]
  refine ⟨fun hmem => h (List.mem_of_mem_filter hmem), fun hmem => ?_⟩
  obtain ⟨rule, hrule, rfl⟩ := List.mem_map.mp hmem
  obtain ⟨-, config, hdeed⟩ := newcomer?_eq_some_iff.mp (Option.mem_toList.mp hrule)
  exact hadd rule config hdeed rfl

theorem notMem_ruleNames_remove (s : State) (name : String) :
    name ∉ (s.after (.remove name)).assistant.ruleNames := by
  rw [ruleNames_after]
  simp [Deed.removes, newcomer?]

/-! ## All deeds -/

theorem afterAll_append (s : State) (first second : List Deed) :
    s.afterAll (first ++ second) = (s.afterAll first).afterAll second := List.foldl_append

theorem nodup_ruleNames_afterAll (h : s.assistant.ruleNames.Nodup) (deeds : List Deed) :
    (s.afterAll deeds).assistant.ruleNames.Nodup := by
  induction deeds generalizing s with
  | nil => exact h
  | cons deed rest ih => exact ih (nodup_ruleNames_after h deed)

theorem notMem_ruleNames_afterAll {name : String} (h : name ∉ s.assistant.ruleNames)
    (hadd : ∀ rule config, .add rule config ∈ deeds → rule.name ≠ name) :
    name ∉ (s.afterAll deeds).assistant.ruleNames := by
  induction deeds generalizing s with
  | nil => exact h
  | cons deed rest ih =>
    refine ih (notMem_ruleNames_after h fun rule config hdeed => ?_) fun rule config hmem =>
      hadd rule config (List.mem_cons_of_mem deed hmem)
    exact hadd rule config (hdeed ▸ List.mem_cons_self)

theorem rules_afterAll (s : State) (deeds : List Deed) :
    (s.afterAll deeds).assistant.rules =
      ((s.arrivals deeds).filter Arrival.stays).map Arrival.rule := by
  -- Rules that are there at one time face the same deeds from then on.
  have hface : ∀ (rules : List Rule) (since : List Deed),
      ((rules.map (Arrival.mk · since)).filter Arrival.stays).map Arrival.rule =
        rules.filter fun rule => Arrival.stays ⟨rule, since⟩ := by
    intro rules since
    rw [List.filter_map, List.map_map]
    exact List.map_id _
  induction deeds generalizing s with
  | nil =>
    rw [arrivals, added, List.append_nil, hface]
    exact (List.filter_eq_self.mpr fun _ _ => rfl).symm
  | cons deed rest ih =>
    have hnext := ih (s.after deed)
    rw [arrivals, List.filter_append, List.map_append, hface] at hnext
    rw [arrivals, added, List.filter_append, List.filter_append, List.map_append, List.map_append,
      hface, hface, ← List.append_assoc]
    refine hnext.trans (congrArg (· ++ _) ?_)
    simp only [rules_after, List.filter_append, List.filter_filter, Arrival.stays_cons,
      Bool.and_comm]

end State

/-! ## The law -/

/-- What becomes of the rules of an engine over deeds. -/
structure Manages (s : State) (deeds : List Deed) : Prop where
  distinct : (s.afterAll deeds).assistant.ruleNames.Nodup
  registry : (s.afterAll deeds).assistant.registry = .ok ⟨(s.afterAll deeds).assistant.rules⟩
  rules : (s.afterAll deeds).assistant.rules =
    ((s.arrivals deeds).filter Arrival.stays).map Arrival.rule
  taken : ∀ rule config, rule.name ∈ (s.afterAll deeds).assistant.ruleNames →
    (s.afterAll deeds).assistant.add rule config =
      (.error (.duplicateRule rule.name), (s.afterAll deeds).assistant)
  added : ∀ rule config, rule.name ∉ (s.afterAll deeds).assistant.ruleNames →
    ((s.afterAll deeds).assistant.add rule config).2.rules =
      (s.afterAll deeds).assistant.rules ++ [rule] ∧
    (config = .null ∨ (∃ pairs, Assistant.mapping config = .ok pairs) →
      ((s.afterAll deeds).assistant.add rule config).1 = .ok ())
  /-- Until a rule of the name is added again, nothing comes of a name that was removed. -/
  absent : ∀ before name since, deeds = before ++ .remove name :: since →
    (∀ rule config, .add rule config ∈ since → rule.name ≠ name) →
    (s.afterAll deeds).engine.Lacks name
  restored : ∀ rule config, rule.name ∉ (s.afterAll deeds).assistant.ruleNames →
    rule.name ∉ (s.afterAll deeds).assistant.config.keys →
    (s.afterAll (deeds ++ [Deed.add rule config, Deed.remove rule.name])).assistant.rules =
        (s.afterAll deeds).assistant.rules ∧
      (s.afterAll (deeds ++ [Deed.add rule config, Deed.remove rule.name])).assistant.config =
        (s.afterAll deeds).assistant.config ∧
      (rule.name ∉ (s.afterAll deeds).assistant.misnamed.keys →
        (s.afterAll (deeds ++ [Deed.add rule config, Deed.remove rule.name])).assistant =
          (s.afterAll deeds).assistant)

/-- The rules of an engine over deeds, when they start with distinct names. -/
theorem manages_deeds {s : State} (h : s.assistant.ruleNames.Nodup) (deeds : List Deed) :
    Manages s deeds := by
  have hdistinct := State.nodup_ruleNames_afterAll h deeds
  refine {
    distinct := hdistinct
    registry := (Registry.ofList_eq_ok_iff _ _).mpr ⟨rfl, hdistinct⟩
    rules := s.rules_afterAll deeds
    taken := fun rule config htaken => Assistant.addGiven_of_mem htaken _
    added := fun rule config hnew =>
      ⟨Assistant.rules_addGiven_of_notMem hnew _, fun hconfig =>
        Assistant.addGiven_succeeds hnew (Assistant.Given.ofJson_ne_error hconfig)⟩
    absent := ?_
    restored := ?_ }
  · rintro before name since rfl hsince
    refine lacks_of_notMem ?_
    rw [List.append_cons, State.afterAll_append, State.afterAll_append]
    exact State.notMem_ruleNames_afterAll (State.notMem_ruleNames_remove _ name) hsince
  · intro rule config hnew hconfig
    have hremoved :
        (s.afterAll (deeds ++ [Deed.add rule config, Deed.remove rule.name])).assistant =
          (s.afterAll deeds).assistant.remove rule.name := by
      rw [State.afterAll_append]
      exact Assistant.remove_addGiven _ rule _
    rw [hremoved]
    exact ⟨Assistant.rules_remove_of_notMem hnew, Keyed.erase_eq_self hconfig,
      Assistant.remove_of_notMem hnew hconfig⟩

def sampleState : State := ⟨sampleEngine, ⟨[], []⟩, sampleMemory⟩

def sampleDeeds : List Deed :=
  [.add Ellipsis.rule .null, .meanwhile (.resolve .null), .remove notingRule.name]

theorem manages_deeds_sample :
    sampleState.assistant.ruleNames.Nodup ∧
    (sampleState.afterAll sampleDeeds).assistant.rules = [Ellipsis.rule] ∧
    (sampleState.afterAll sampleDeeds).engine.Lacks notingRule.name ∧
    (sampleState.afterAll (sampleDeeds ++ [.add notingRule .null])).assistant.rules =
      [Ellipsis.rule, notingRule] ∧
    ((sampleState.afterAll sampleDeeds).assistant.add Ellipsis.rule .null).1 =
      .error (.duplicateRule Ellipsis.name) := by
  have hnames : sampleState.assistant.ruleNames.Nodup := by decide
  have hlaw := manages_deeds hnames sampleDeeds
  have habsent := hlaw.absent [.add Ellipsis.rule .null, .meanwhile (.resolve .null)]
    notingRule.name [] rfl (by simp)
  refine ⟨hnames, hlaw.rules.trans rfl, habsent, ?_, ?_⟩
  · exact (manages_deeds hnames _).rules.trans rfl
  · rw [hlaw.taken]
    · rfl
    · rw [Assistant.ruleNames, hlaw.rules]
      decide

end Engine

end DesignLint
