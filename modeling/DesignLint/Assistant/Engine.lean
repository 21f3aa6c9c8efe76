import DesignLint.Assistant.Basic
import DesignLint.ConfigFile
import DesignLint.Run.Runner
import DesignLint.Settings

/-!
# The engine

Layers of configurations are merged key by key, and the last one that has a key counts.
-/

namespace DesignLint

structure Engine where
  assistant : Assistant
  /-- The path of the configuration file; empty when there is none. -/
  configPath : String
  runner : Runner

namespace Engine

/-- The engine of an assistant; without a path of its own it takes the one of the settings. -/
def create (settings : Settings) (assistant : Assistant) (configPath : Option String) :
    Except Fault Engine :=
  (Severity.ofJson (.str settings.severity)).map fun severity =>
    ⟨assistant, configPath.getD settings.configPath, ⟨severity⟩⟩

/-- Configurations with one more entry merged in; the entries of unknown rules are logged. -/
def mergeEntry (e : Engine) (merged : Keyed (Keyed Json)) (name : String) (config : Json) :
    Work (Keyed (Keyed Json)) := do
  if !e.assistant.ruleNames.contains name then
    Work.log (.unknownRule name e.assistant.name)
    return merged
  else match config with
    | .obj fields => return merged.put name (((merged.get? name).getD []).merge fields)
    | v => throw (.misuse (.noMapping v.typeName))

def mergeLayer (e : Engine) (merged : Keyed (Keyed Json)) : Keyed Json → Work (Keyed (Keyed Json))
  | [] => return merged
  | (name, config) :: rest => do
    e.mergeLayer (← e.mergeEntry merged name config) rest

/-- The layer that overrides are; overrides that are not given are no layer. -/
def overrideLayer (overrides : Json) : Except Fault (Keyed Json) :=
  match overrides with
  | .obj fields => .ok fields
  | v => if v.isGiven then .error (.lacking v.typeName "items") else .ok []

def fileLayer (e : Engine) (files : Files) : Work (Keyed Json) :=
  if e.configPath.isEmpty then return [] else ConfigFile.load files e.configPath

/-- The flat configurations by the name of the rule, all layers merged. -/
def resolve (e : Engine) (files : Files) (overrides : Json) : Work (Keyed (Keyed Json)) := do
  let file ← e.fileLayer files
  let merged ← e.mergeLayer [] e.assistant.config
  let merged ← e.mergeLayer merged file
  e.mergeLayer merged (← Work.ofResult (overrideLayer overrides))

def input (e : Engine) (rule : String) (config : Keyed Json) : ConfigInput :=
  match (e.assistant.misnamed.get? rule).getD [] with
  | [] => .flat (.obj config)
  | keys => .misnamed keys config

def inputs (e : Engine) (configs : Keyed (Keyed Json)) : Keyed ConfigInput :=
  configs.map fun c => (c.1, e.input c.1 c.2)

def run (e : Engine) (files : Files) (document : Except Document.Source Document)
    (overrides : Json) : Work RunReport := do
  let registry ← Work.ofResult e.assistant.registry
  let configs ← e.resolve files overrides
  let document ← Work.ofResult (match document with
    | .ok d => .ok d
    | .error source => Document.load source)
  let report ← Work.ofResult (e.runner.runDocument document registry (e.inputs configs))
  report.log.forM Work.log
  Work.log (.assistantRunComplete e.assistant.name report.result.summary
    (report.result.errors.map (·.rule)))
  return report

/-! ## Listings -/

structure RuleListing where
  name : String
  title : Json
  description : String
  active : Bool
  options : List (Keyed Json)
  config : Keyed Json

/-- The texts of a rule when its options do not fit: those that do not depend on them. -/
def plainTexts (rule : Rule) : String × String :=
  (match rule.title with | .fixed s => s | _ => rule.name,
    match rule.description with | .fixed s => s | _ => "")

def valuesOf (rule : Rule) (config : ConfigInput) : Except Fault OptionValues := do
  let config ← RuleConfig.coerce rule.name config
  OptionValues.check rule.name rule.options (← Schema.compile rule.name rule.options) config

def texts (rule : Rule) (config : ConfigInput) : Work (String × String) := do
  let _ ← Work.ofResult rule.title.isFixed
  let _ ← Work.ofResult rule.description.isFixed
  match valuesOf rule config with
  | .ok o =>
    let title ← Work.ofResult (rule.title.render o.values)
    return (title, ← Work.ofResult (rule.description.render o.values))
  | .error (.option f) =>
    Work.log (.textsUnrendered rule.name f.text)
    return plainTexts rule
  | .error f => throw f

/-- The first of the values that is given, else the last one. -/
def firstGiven (values : List Json) (last : Json) : Json := (values.find? (·.isGiven)).getD last

def listing (e : Engine) (rule : Rule) (config : Option (Keyed Json)) : Work RuleListing := do
  let flat := config.getD []
  let input := if config.isSome then e.input rule.name flat else .flat (.obj [])
  let (title, description) ← texts rule input
  let active ← Work.ofResult (if config.isSome then input.isActive else .ok false)
  return {
    name := rule.name
    title := firstGiven (["rule_title", "ruleTitle"].filterMap flat.get?) (.str title)
    description
    active
    options := ← Work.ofResult (rule.options.mapM Declaration.describe)
    config := (Declaration.defaults rule.options).merge (RuleConfig.optionsOf flat) }

def describe (e : Engine) (files : Files) (overrides : Json) : Work (List RuleListing) := do
  let configs ← e.resolve files overrides
  let registry ← Work.ofResult e.assistant.registry
  registry.rules.mapM fun rule => e.listing rule (configs.get? rule.name)

end Engine

end DesignLint
