import DesignLint.Assistant.Engine
import DesignLint.Proofs.ConfigFile

/-! # What an engine takes from memory -/

namespace DesignLint

namespace Engine

variable {e : Engine} {files files' : Files} {m m' : Memory} {overrides : Json}
  {document : Except Document.Source Document} {rules : Keyed Json} {registry : Registry}

/-! ## Work that has the file layer -/

def resolveOver (e : Engine) (overrides : Json) (file : Keyed Json) :
    Work (Keyed (Keyed Json)) := do
  let merged ← e.mergeLayer [] e.assistant.config
  let merged ← e.mergeLayer merged file
  e.mergeLayer merged (← Work.ofResult (overrideLayer overrides))

def describeOver (e : Engine) (overrides : Json) (file : Keyed Json) : Work (List RuleListing) := do
  let configs ← e.resolveOver overrides file
  let registry ← Work.ofResult e.assistant.registry
  registry.rules.mapM fun rule => e.listing rule (configs.get? rule.name)

def runOver (e : Engine) (registry : Registry) (document : Except Document.Source Document)
    (overrides : Json) (file : Keyed Json) : Work RunReport := do
  let configs ← e.resolveOver overrides file
  let document ← Work.ofResult (match document with
    | .ok d => .ok d
    | .error source => Document.load source)
  let report ← Work.ofResult (e.runner.runDocument document registry (e.inputs configs))
  report.log.forM Work.log
  Work.log (.assistantRunComplete e.assistant.name report.result.summary
    (report.result.errors.map (·.rule)))
  return report

theorem resolve_eq_bind (e : Engine) (files : Files) (overrides : Json) :
    e.resolve files overrides = e.fileLayer files >>= e.resolveOver overrides := rfl

theorem describe_eq_bind (e : Engine) (files : Files) (overrides : Json) :
    e.describe files overrides = e.fileLayer files >>= e.describeOver overrides := by
  rw [describe, resolve_eq_bind, bind_assoc]
  rfl

theorem run_eq_bind (h : e.assistant.registry = .ok registry) (files : Files)
    (document : Except Document.Source Document) (overrides : Json) :
    (e.run files document overrides).run m =
      (e.fileLayer files >>= e.runOver registry document overrides).run m := by
  rw [Engine.run.eq_def, Work.run_bind, Work.run_ofResult, h]
  dsimp only
  rw [resolve_eq_bind, bind_assoc]
  rfl

theorem run_of_registry_error {f : Fault} (h : e.assistant.registry = .error f) (files : Files)
    (document : Except Document.Source Document) (overrides : Json) :
    (e.run files document overrides).run m = (.error f, m) := by
  rw [Engine.run.eq_def, Work.run_bind, Work.run_ofResult, h]

/-! ## It only logs -/

theorem onlyLogs_mergeLayer (e : Engine) (merged : Keyed (Keyed Json)) (layer : Keyed Json) :
    (e.mergeLayer merged layer).OnlyLogs := by
  induction layer generalizing merged with
  | nil => exact Work.onlyLogs_pure merged
  | cons entry rest ih =>
    obtain ⟨name, config⟩ := entry
    rw [mergeLayer]
    refine Work.OnlyLogs.bind ?_ fun merged => ih merged
    unfold mergeEntry
    split
    · exact (Work.onlyLogs_log _).bind fun _ => Work.onlyLogs_pure merged
    · split
      · exact Work.onlyLogs_pure _
      · exact Work.onlyLogs_throw _

theorem onlyLogs_resolveOver (e : Engine) (overrides : Json) (file : Keyed Json) :
    (e.resolveOver overrides file).OnlyLogs :=
  (e.onlyLogs_mergeLayer _ _).bind fun _ => (e.onlyLogs_mergeLayer _ _).bind fun _ =>
    (Work.onlyLogs_ofResult _).bind fun _ => e.onlyLogs_mergeLayer _ _

theorem onlyLogs_texts (rule : Rule) (config : ConfigInput) : (texts rule config).OnlyLogs := by
  refine (Work.onlyLogs_ofResult _).bind fun _ => (Work.onlyLogs_ofResult _).bind fun _ => ?_
  split
  · exact (Work.onlyLogs_ofResult _).bind fun _ => (Work.onlyLogs_ofResult _).bind fun _ =>
      Work.onlyLogs_pure _
  · exact (Work.onlyLogs_log _).bind fun _ => Work.onlyLogs_pure _
  · exact Work.onlyLogs_throw _

theorem onlyLogs_listing (e : Engine) (rule : Rule) (config : Option (Keyed Json)) :
    (e.listing rule config).OnlyLogs :=
  (onlyLogs_texts _ _).bind fun _ => (Work.onlyLogs_ofResult _).bind fun _ =>
    (Work.onlyLogs_ofResult _).bind fun _ => Work.onlyLogs_pure _

theorem onlyLogs_describeOver (e : Engine) (overrides : Json) (file : Keyed Json) :
    (e.describeOver overrides file).OnlyLogs :=
  (e.onlyLogs_resolveOver overrides file).bind fun _ => (Work.onlyLogs_ofResult _).bind fun _ =>
    Work.onlyLogs_mapM (fun _ => e.onlyLogs_listing _ _) _

theorem onlyLogs_runOver (e : Engine) (registry : Registry)
    (document : Except Document.Source Document) (overrides : Json) (file : Keyed Json) :
    (e.runOver registry document overrides file).OnlyLogs :=
  (e.onlyLogs_resolveOver overrides file).bind fun _ => (Work.onlyLogs_ofResult _).bind fun _ =>
    (Work.onlyLogs_ofResult _).bind fun report => (Work.onlyLogs_forM_log report.log).bind fun _ =>
      (Work.onlyLogs_log _).bind fun _ => Work.onlyLogs_pure report

/-! ## What it yields depends on the file layer -/

section

variable (h : ((e.fileLayer files').run m').1 = ((e.fileLayer files).run m).1)
include h

theorem resolve_congr (overrides : Json) :
    ((e.resolve files' overrides).run m').1 = ((e.resolve files overrides).run m).1 := by
  rw [resolve_eq_bind, resolve_eq_bind]
  exact Work.run_bind_congr (e.onlyLogs_resolveOver overrides) h

theorem describe_congr (overrides : Json) :
    ((e.describe files' overrides).run m').1 = ((e.describe files overrides).run m).1 := by
  rw [describe_eq_bind, describe_eq_bind]
  exact Work.run_bind_congr (e.onlyLogs_describeOver overrides) h

theorem run_congr (document : Except Document.Source Document) (overrides : Json) :
    ((e.run files' document overrides).run m').1 = ((e.run files document overrides).run m).1 := by
  cases hregistry : e.assistant.registry with
  | error f => rw [run_of_registry_error hregistry, run_of_registry_error hregistry]
  | ok registry =>
    rw [run_eq_bind hregistry, run_eq_bind hregistry]
    exact Work.run_bind_congr (e.onlyLogs_runOver registry document overrides) h

end

/-! ## What is remembered of files afterwards -/

theorem cache_resolve (e : Engine) (files : Files) (overrides : Json) (m : Memory) :
    ((e.resolve files overrides).run m).2.cache = ((e.fileLayer files).run m).2.cache := by
  rw [resolve_eq_bind]
  exact Work.cache_run_bind (e.onlyLogs_resolveOver overrides) _ m

theorem cache_describe (e : Engine) (files : Files) (overrides : Json) (m : Memory) :
    ((e.describe files overrides).run m).2.cache = ((e.fileLayer files).run m).2.cache := by
  rw [describe_eq_bind]
  exact Work.cache_run_bind (e.onlyLogs_describeOver overrides) _ m

theorem cache_run (h : e.assistant.registry = .ok registry) (files : Files)
    (document : Except Document.Source Document) (overrides : Json) (m : Memory) :
    ((e.run files document overrides).run m).2.cache = ((e.fileLayer files).run m).2.cache := by
  rw [run_eq_bind h]
  exact Work.cache_run_bind (e.onlyLogs_runOver registry document overrides) _ m

/-! ## The file layer -/

def remembered? (e : Engine) (m : Memory) : Option (Keyed Json) :=
  m.cache.get? (Files.resolve e.configPath)

def readAnew (e : Engine) (files : Files) : Except Fault (Keyed Json) :=
  if Files.holdsNull e.configPath then .error .innerNull
  else ConfigFile.readFile files e.configPath

/-- How a file layer is taken: there is none, or it is remembered, or it is read, or that fails. -/
inductive Takes (e : Engine) (files : Files) (m : Memory) :
    Except Fault (Keyed Json) × Memory → Prop
  | nothing (hpath : e.configPath = "") : Takes e files m (.ok [], m)
  | remembered (rules : Keyed Json) (hpath : e.configPath ≠ "")
      (hnull : Files.holdsNull e.configPath = false) (h : e.remembered? m = some rules) :
      Takes e files m (.ok rules, m)
  | read (rules : Keyed Json) (hpath : e.configPath ≠ "")
      (hnull : Files.holdsNull e.configPath = false) (h : e.remembered? m = none)
      (hread : e.readAnew files = .ok rules) :
      Takes e files m (.ok rules, ⟨m.cache.put (Files.resolve e.configPath) rules,
        m.log ++ [.configLoaded (Files.resolve e.configPath) rules.length]⟩)
  | failed (f : Fault) (hpath : e.configPath ≠ "")
      (h : Files.holdsNull e.configPath = true ∨ e.remembered? m = none)
      (hread : e.readAnew files = .error f) : Takes e files m (.error f, m)

theorem takes_fileLayer (e : Engine) (files : Files) (m : Memory) :
    e.Takes files m ((e.fileLayer files).run m) := by
  unfold fileLayer
  split
  · rename_i hpath
    exact .nothing (String.isEmpty_iff.mp hpath)
  · rename_i hpath
    rw [String.isEmpty_iff] at hpath
    rw [ConfigFile.run_load]
    cases hnull : Files.holdsNull e.configPath with
    | true => exact .failed _ hpath (.inl hnull) (by rw [readAnew, hnull]; rfl)
    | false =>
      have hanew : e.readAnew files = ConfigFile.readFile files e.configPath := by
        rw [readAnew, hnull]
        rfl
      have hcache : m.cache.get? (Files.resolve e.configPath) = e.remembered? m := rfl
      rw [hcache, ← hanew]
      cases hget : e.remembered? m with
      | some rules => exact .remembered rules hpath hnull hget
      | none =>
        cases hread : e.readAnew files with
        | error f => exact .failed f hpath (.inr hget) hread
        | ok rules => exact .read rules hpath hnull hget hread

theorem fileLayer_of_forgotten (hpath : e.configPath ≠ "") (h : e.remembered? m = none) :
    ((e.fileLayer files).run m).1 = e.readAnew files := by
  have htakes := e.takes_fileLayer files m
  generalize (e.fileLayer files).run m = taken at htakes ⊢
  cases htakes with
  | nothing hnone => exact absurd hnone hpath
  | remembered rules _ _ hget => cases h.symm.trans hget
  | read rules _ _ _ hread => exact hread.symm
  | failed f _ _ hread => exact hread.symm

theorem fileLayer_of_remembered (hpath : e.configPath ≠ "")
    (hnull : Files.holdsNull e.configPath = false) (h : e.remembered? m = some rules) :
    ((e.fileLayer files).run m).1 = .ok rules := by
  have htakes := e.takes_fileLayer files m
  generalize (e.fileLayer files).run m = taken at htakes ⊢
  cases htakes with
  | nothing hnone => exact absurd hnone hpath
  | remembered given _ _ hget =>
    cases h.symm.trans hget
    rfl
  | read given _ _ hget => cases h.symm.trans hget
  | failed f _ hcause =>
    rcases hcause with hcause | hget
    · cases hnull.symm.trans hcause
    · cases h.symm.trans hget

theorem remembered?_of_fileLayer (hpath : e.configPath ≠ "")
    (h : ((e.fileLayer files).run m).1 = .ok rules) :
    Files.holdsNull e.configPath = false ∧
      e.remembered? ((e.fileLayer files).run m).2 = some rules := by
  have htakes := e.takes_fileLayer files m
  generalize (e.fileLayer files).run m = taken at h htakes ⊢
  cases htakes with
  | nothing hnone => exact absurd hnone hpath
  | remembered given _ hnull hget =>
    cases h
    exact ⟨hnull, hget⟩
  | read given _ hnull =>
    cases h
    exact ⟨hnull, Keyed.get?_put_self _ _ _⟩
  | failed => cases h

theorem run_fileLayer_of_error {f : Fault} (h : ((e.fileLayer files).run m).1 = .error f) :
    (e.fileLayer files).run m = (.error f, m) := by
  have htakes := e.takes_fileLayer files m
  generalize (e.fileLayer files).run m = taken at h htakes ⊢
  cases htakes with
  | failed =>
    cases h
    rfl
  | _ => cases h

theorem get?_cache_fileLayer {path : String} (h : m.cache.get? path = some rules) (files : Files) :
    ((e.fileLayer files).run m).2.cache.get? path = some rules := by
  have htakes := e.takes_fileLayer files m
  generalize (e.fileLayer files).run m = taken at htakes ⊢
  cases htakes with
  | read given _ _ hget =>
    -- The file was not remembered, so its entry is put under another path.
    have hne : Files.resolve e.configPath ≠ path := by
      rintro rfl
      rw [remembered?, h] at hget
      cases hget
    exact (Keyed.get?_put_of_ne _ _ hne).trans h
  | _ => exact h

/-- Once a file layer was had it stays, as long as no file is forgotten. -/
theorem fileLayer_again (h : ((e.fileLayer files).run m).1 = .ok rules)
    (hcache : m'.cache = ((e.fileLayer files).run m).2.cache) (files' : Files) :
    ((e.fileLayer files').run m').1 = .ok rules := by
  by_cases hpath : e.configPath = ""
  · rw [fileLayer, if_pos (String.isEmpty_iff.mpr hpath)] at h ⊢
    exact h
  · obtain ⟨hnull, hremembered⟩ := remembered?_of_fileLayer hpath h
    rw [remembered?, ← hcache] at hremembered
    exact fileLayer_of_remembered hpath hnull hremembered

end Engine

end DesignLint
