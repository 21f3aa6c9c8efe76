import DesignLint.Proofs.Assistant.FileLayer
import DesignLint.Proofs.Run.Faults
import DesignLint.Proofs.Run.Invoked
import DesignLint.Proofs.RuleOption.Values

/-! # Configurations that an engine resolves -/

namespace DesignLint

namespace Engine

variable {e : Engine} {files : Files} {m : Memory} {layer file given : Keyed Json}
  {overrides : Json}

/-! ## Layers that are merged -/

def knows (e : Engine) (name : String) : Bool := e.assistant.ruleNames.contains name

theorem run_mergeLayer (h : IsLayer layer) (merged : Keyed (Keyed Json)) (m : Memory) :
    ∃ log, (e.mergeLayer merged layer).run m =
      (.ok (Layers.overlay merged (layer.only e.knows)), { m with log }) := by
  induction layer generalizing merged m with
  | nil => exact ⟨m.log, rfl⟩
  | cons entry rest ih =>
    obtain ⟨fields, he, -, -, hrest⟩ := h.exists_of_cons
    rw [he, mergeLayer, Work.run_bind, mergeEntry]
    by_cases hknown : e.knows entry.1
    · have honly : Keyed.only ((entry.1, .obj fields) :: rest) e.knows =
          (entry.1, .obj fields) :: Keyed.only rest e.knows := List.filter_cons_of_pos hknown
      rw [honly, Layers.overlay_cons]
      unfold knows at hknown
      rw [hknown]
      exact ih hrest _ m
    · have honly : Keyed.only ((entry.1, .obj fields) :: rest) e.knows = Keyed.only rest e.knows :=
        List.filter_cons_of_neg hknown
      rw [honly]
      unfold knows at hknown
      rw [Bool.not_eq_true] at hknown
      rw [hknown]
      exact ih hrest merged _

def layers (e : Engine) (file given : Keyed Json) : List (Keyed Json) :=
  [e.assistant.config, file, given]

/-- An engine finds its layers: those of its assistant have the right form, its file can be loaded or
it has none, and the overrides are a layer or not given. -/
structure Finds (e : Engine) (files : Files) (overrides : Json) (m : Memory)
    (file given : Keyed Json) : Prop where
  assistant : IsLayer e.assistant.config
  memory : m.IsSound
  file : ((e.fileLayer files).run m).1 = .ok file
  overrides : overrideLayer overrides = .ok given
  given : IsLayer given

theorem isLayer_of_fileLayer (hm : m.IsSound) (h : ((e.fileLayer files).run m).1 = .ok file) :
    IsLayer file := by
  unfold fileLayer at h
  split at h
  · cases h
    exact ⟨List.nodup_nil, by simp⟩
  · exact ConfigFile.isLayer_of_load hm h

theorem Finds.isLayer (h : e.Finds files overrides m file given) :
    ∀ layer ∈ e.layers file given, IsLayer layer := by
  simp only [layers, List.forall_mem_cons, List.not_mem_nil, false_implies, implies_true, and_true]
  exact ⟨h.assistant, isLayer_of_fileLayer h.memory h.file, h.given⟩

theorem run_resolve (h : e.Finds files overrides m file given) :
    ((e.resolve files overrides).run m).1 =
      .ok (Layers.overlayAll ((e.layers file given).map (·.only e.knows))) := by
  have hfile : (e.fileLayer files).run m = (.ok file, ((e.fileLayer files).run m).2) :=
    Prod.ext h.file rfl
  obtain ⟨log₁, h₁⟩ := run_mergeLayer h.assistant [] ((e.fileLayer files).run m).2
  obtain ⟨log₂, h₂⟩ := run_mergeLayer (isLayer_of_fileLayer h.memory h.file)
    (Layers.overlay [] (e.assistant.config.only e.knows))
    { ((e.fileLayer files).run m).2 with log := log₁ }
  obtain ⟨log₃, h₃⟩ := run_mergeLayer h.given
    (Layers.overlay (Layers.overlay [] (e.assistant.config.only e.knows)) (file.only e.knows))
    { ((e.fileLayer files).run m).2 with log := log₂ }
  rw [resolve, Work.run_bind, hfile]
  dsimp only
  rw [Work.run_bind, h₁]
  dsimp only
  rw [Work.run_bind, h₂]
  dsimp only
  rw [Work.run_bind, Work.run_ofResult, h.overrides]
  dsimp only
  rw [h₃]
  rfl

/-! ## Runs under merged configurations -/

def loaded (document : Except Document.Source Document) : Except Fault Document :=
  match document with
  | .ok d => .ok d
  | .error source => Document.load source

theorem run_concluding (e : Engine) (r : Except Fault RunReport) (m : Memory) :
    (ExceptT.run (do
      let report ← Work.ofResult r
      report.log.forM Work.log
      Work.log (.assistantRunComplete e.assistant.name report.result.summary
        (report.result.errors.map (·.rule)))
      return report) m).1 = r := by
  rw [Work.run_ofResult_bind]
  cases r with
  | error f => rfl
  | ok report =>
    obtain ⟨log, hlog⟩ := Work.run_forM_log report.log m
    change (ExceptT.run (report.log.forM Work.log >>= _) m).1 = _
    rw [Work.run_bind, hlog]
    rfl

theorem run_eq_runLoaded {merged : Keyed (Keyed Json)}
    (h : ((e.resolve files overrides).run m).1 = .ok merged)
    (document : Except Document.Source Document) :
    ((e.run files document overrides).run m).1 =
      e.runner.runLoaded (loaded document) e.assistant.rules (e.inputs merged) := by
  have hresolve : (e.resolve files overrides).run m =
      (.ok merged, ((e.resolve files overrides).run m).2) := Prod.ext h rfl
  rw [Engine.run.eq_def, Work.run_ofResult_bind]
  refine congrArg e.assistant.registry.bind (funext fun registry => ?_)
  rw [Work.run_bind, hresolve]
  dsimp only
  rw [Work.run_ofResult_bind]
  exact congrArg (loaded document).bind (funext fun d => run_concluding e _ _)

/-! ## What checks read -/

theorem get?_inputs (e : Engine) (configs : Keyed (Keyed Json)) (name : String) :
    (e.inputs configs).get? name = (configs.get? name).map (e.input name) := by
  induction configs with
  | nil => rfl
  | cons entry rest ih =>
    unfold inputs at ih ⊢
    rw [List.map_cons, Keyed.get?_cons, Keyed.get?_cons, ih]
    by_cases hname : entry.1 = name
    · subst hname
      simp
    · simp [hname]

theorem options_of_coerce_input {rule : String} {flat : Keyed Json} {config : RuleConfig}
    (h : RuleConfig.coerce rule (e.input rule flat) = .ok config) :
    config.options = RuleConfig.optionsOf flat := by
  unfold input at h
  split at h <;> exact (RuleConfig.ofFlatFor_eq_ok_iff.mp h).2.options

/-- What an open context reads for an option of a rule is what the last of the layers says, unless
the name is reserved. -/
def ReadsLast (layers : List (Keyed Json)) (rule : Rule) (c : Context) : Prop :=
  ∀ name ∈ rule.options.map (·.name), name ∉ RuleConfig.reservedKeys →
    ∀ s : Session, s.closed = false →
      OptionValues.Reads rule.name rule.options (Layers.lastValue? layers rule.name name) name
        (c.option s name)

theorem readsLast_of_invokes {layers : List (Keyed Json)} {merged : Keyed (Keyed Json)}
    {r : Runner} {index : Index Layer} {rule : Rule} {config : RuleConfig} {c : Context}
    (hmerges : Layers.Merges e.assistant.ruleNames layers merged) (hrule : rule ∈ e.assistant.rules)
    (h : r.Invokes index (e.inputs merged) rule config c) : ReadsLast layers rule c := by
  intro name hdeclared hname s hopen
  obtain ⟨input, hinput, hconfig⟩ := h.given
  obtain ⟨hinput, -⟩ := Option.filter_eq_some_iff.mp hinput
  rw [get?_inputs] at hinput
  obtain ⟨flat, hflat, rfl⟩ := Option.map_eq_some_iff.mp hinput
  have hoptions := options_of_coerce_input hconfig
  have hdistinct : (Keyed.keys config.options).Nodup := by
    rw [hoptions, RuleConfig.optionsOf, Keyed.keys_only]
    exact (hmerges.distinct _ (Keyed.mem_of_get? hflat)).filter _
  have hlast : config.options.get? name = Layers.lastValue? layers rule.name name := by
    rw [hoptions, RuleConfig.get?_optionsOf hname,
      ← hmerges.values rule.name (List.mem_map_of_mem hrule), Layers.valueOf?, hflat]
    rfl
  obtain ⟨schema, hschema, hvalues⟩ := Runner.resolve_eq_ok_iff.mp h.options
  have hreads := OptionValues.reads_of_check hschema hvalues hdeclared hdistinct
  rw [hlast] at hreads
  have hread : c.option s name = c.options.get name := by
    rw [Context.option, hopen]
    rfl
  rwa [hread]

/-! ## What is remembered -/

theorem keeps_run (e : Engine) (files : Files) (document : Except Document.Source Document)
    (overrides : Json) : (e.run files document overrides).Keeps := by
  intro m hm
  cases hregistry : e.assistant.registry with
  | error f => rwa [run_of_registry_error hregistry]
  | ok registry =>
    have hlayer : ((e.fileLayer files).run m).2.IsSound := by
      unfold fileLayer
      split
      · exact hm
      · exact ConfigFile.keeps_load files e.configPath m hm
    unfold Memory.IsSound at hlayer ⊢
    rwa [cache_run hregistry]

/-! ## The law -/

/-- Two engines have the same rules and run them alike. -/
structure SharesRules (e' e : Engine) : Prop where
  rules : e'.assistant.rules = e.assistant.rules
  misnamed : e'.assistant.misnamed = e.assistant.misnamed
  runner : e'.runner = e.runner

/-- Configurations are merged key by key from the layers of an engine, for the names of its rules. A
check that is invoked reads what the last layer says, or else the default. -/
theorem resolve_layered (h : e.Finds files overrides m file given) :
    ∃ merged, ((e.resolve files overrides).run m).1 = .ok merged ∧
      Layers.Merges e.assistant.ruleNames (e.layers file given) merged ∧
      (∀ document, ((e.run files document overrides).run m).1 =
          e.runner.runLoaded (loaded document) e.assistant.rules (e.inputs merged) ∧
        ((e.run files document overrides).run m).2.IsSound) ∧
      (∀ index, ∀ rule ∈ e.assistant.rules, ∀ config c,
        e.runner.Invokes index (e.inputs merged) rule config c →
          ReadsLast (e.layers file given) rule c) ∧
      (∀ document report, ((e.run files document overrides).run m).1 = .ok report →
        ∀ c s error, .settled c s error ∈ report.runs → ∃ rule ∈ e.assistant.rules,
          (∃ store, Runner.settle c store rule.check = .ok (.settled c s error)) ∧
          c.rule = rule.name ∧ ReadsLast (e.layers file given) rule c) ∧
      ∀ (e' : Engine) (files' : Files) (overrides' : Json) (m' : Memory)
        (file' given' : Keyed Json), e'.Finds files' overrides' m' file' given' →
        SharesRules e' e →
        (e'.layers file' given').map (·.only e.knows) =
          (e.layers file given).map (·.only e.knows) →
        ((e'.resolve files' overrides').run m').1 = .ok merged ∧
          ∀ document, ((e'.run files' document overrides').run m').1 =
            ((e.run files document overrides).run m).1 := by
  have hmerged := run_resolve h
  have hmerges := Layers.merges_overlayAll e.assistant.ruleNames h.isLayer
  refine ⟨_, hmerged, hmerges, fun document => ?_, ?_, ?_, ?_⟩
  · exact ⟨run_eq_runLoaded hmerged document, e.keeps_run files document overrides m h.memory⟩
  · exact fun index rule hrule config c => readsLast_of_invokes hmerges hrule
  · intro document report hreport c s error hc
    rw [run_eq_runLoaded hmerged] at hreport
    obtain ⟨rule, hrule, config, hinvokes, hsettle⟩ := Runner.exists_invokes_of_settled hreport hc
    exact ⟨rule, hrule, hsettle, hinvokes.rule_eq, readsLast_of_invokes hmerges hrule hinvokes⟩
  · intro e' files' overrides' m' file' given' h' hshares hlayers
    have hknows : e'.knows = e.knows := by
      unfold knows Assistant.ruleNames
      rw [hshares.rules]
    have hmerged' := run_resolve h'
    rw [hknows, hlayers] at hmerged'
    refine ⟨hmerged', fun document => ?_⟩
    have hinputs : ∀ configs, e'.inputs configs = e.inputs configs := by
      intro configs
      unfold inputs input
      rw [hshares.misnamed]
    rw [run_eq_runLoaded hmerged', run_eq_runLoaded hmerged, hshares.rules, hshares.runner, hinputs]

def notingRule : Rule where
  sort := "Rule"
  name := "notes/option"
  title := .fixed ""
  description := .fixed ""
  options := [{ name := "x", type := .integer, fallback := some (.whole 1) }]
  check := do
    Check.note (← Check.option "x")

def sampleLayer (rule : String) (x : Int) : Keyed Json := [(rule, .obj [("x", .whole x)])]

def sampleEngine : Engine where
  assistant := { name := "a", rules := [notingRule], config := sampleLayer notingRule.name 2 }
  configPath := "/rules.json"
  runner := ⟨.warn⟩

def sampleMemory : Memory := ⟨[("/rules.json", sampleLayer notingRule.name 3)], []⟩

theorem isLayer_sampleLayer (rule : String) (x : Int) : IsLayer (sampleLayer rule x) :=
  ⟨by simp [sampleLayer, Keyed.keys], by simp [sampleLayer, Keyed.keys]⟩

theorem finds_sampleEngine {overrides : Json} {given : Keyed Json}
    (hoverrides : overrideLayer overrides = .ok given) (hgiven : IsLayer given) :
    sampleEngine.Finds ⟨[], []⟩ overrides sampleMemory (sampleLayer notingRule.name 3) given where
  assistant := isLayer_sampleLayer _ _
  memory := by
    intro entry hentry
    rw [List.mem_singleton.mp hentry]
    exact isLayer_sampleLayer _ _
  file := rfl
  overrides := hoverrides
  given := hgiven

theorem resolve_layered_sample :
    (∃ merged, ((sampleEngine.resolve ⟨[], []⟩ (.obj (sampleLayer "gone" 4))).run
        sampleMemory).1 = .ok merged ∧
      Keyed.keys merged = [notingRule.name] ∧
      Layers.valueOf? merged notingRule.name "x" = some (.whole 3)) ∧
    (∃ report c s, ((sampleEngine.run ⟨[], []⟩ (.ok Runner.sampleDocument)
        (.obj (sampleLayer "gone" 4))).run sampleMemory).1 = .ok report ∧
      .settled c s none ∈ report.runs ∧ c.option (Session.start []) "x" = .ok (.whole 3)) ∧
    ((sampleEngine.run ⟨[], []⟩ (.ok Runner.sampleDocument) .null).run sampleMemory).1 =
      ((sampleEngine.run ⟨[], []⟩ (.ok Runner.sampleDocument)
        (.obj (sampleLayer "gone" 4))).run sampleMemory).1 := by
  have hgiven := isLayer_sampleLayer "gone" 4
  have hfinds : sampleEngine.Finds ⟨[], []⟩ (.obj (sampleLayer "gone" 4)) sampleMemory
      (sampleLayer notingRule.name 3) (sampleLayer "gone" 4) := finds_sampleEngine rfl hgiven
  have hplain : sampleEngine.Finds ⟨[], []⟩ .null sampleMemory
      (sampleLayer notingRule.name 3) [] := finds_sampleEngine rfl ⟨List.nodup_nil, by simp⟩
  obtain ⟨merged, hmerged, hmerges, -, -, hruns, hsame⟩ := resolve_layered hfinds
  refine ⟨⟨merged, hmerged, ?_, ?_⟩, ?_, ?_⟩
  · rw [hmerges.order]
    decide
  · rw [hmerges.values _ List.mem_cons_self]
    rfl
  · have hreport : ∃ report c s, ((sampleEngine.run ⟨[], []⟩ (.ok Runner.sampleDocument)
        (.obj (sampleLayer "gone" 4))).run sampleMemory).1 = .ok report ∧
        report.runs = [.settled c s none] := ⟨_, _, _, rfl, rfl⟩
    obtain ⟨report, c, s, hreport, hrun⟩ := hreport
    have hc : RuleRun.settled c s none ∈ report.runs := by
      rw [hrun]
      exact List.mem_cons_self
    obtain ⟨rule, hrule, -, -, hreads⟩ := hruns _ report hreport c s none hc
    obtain rfl := List.mem_singleton.mp hrule
    obtain ⟨d, a, hd, ha, w, hw, hread⟩ :=
      hreads "x" List.mem_cons_self (by decide) (Session.start []) rfl
    obtain rfl : _ = d := Option.some.inj hd
    obtain rfl : _ = a := Except.ok.inj ha
    obtain rfl : Json.whole 3 = w := Except.ok.inj hw
    exact ⟨report, c, s, hreport, hc, hread⟩
  · exact (hsame _ _ _ _ _ _ hplain ⟨rfl, rfl, rfl⟩ rfl).2 _

end Engine

end DesignLint
