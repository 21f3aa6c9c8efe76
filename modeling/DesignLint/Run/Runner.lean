import DesignLint.Check.Context
import DesignLint.Document.Load
import DesignLint.Rule.Registry
import DesignLint.Run.Result

/-!
# Running rules

What goes wrong in a rule becomes its one error; what it reported before stays, and the other rules
run on.
-/

namespace DesignLint

/-- What became of one rule in a run. -/
inductive RuleRun
  | skipped (rule : String) (reason : SkipReason)
  /-- The configuration has bad reserved values. -/
  | rejected (error : RuleError)
  /-- The options do not fit. -/
  | unstarted (error : RuleError)
  /-- The check ran, in a context that is closed now. -/
  | settled (context : Context) (session : Session) (error : Option RuleError)

namespace RuleRun

def ranRule? : RuleRun → Option String
  | skipped _ _ => none
  | rejected e => some e.rule
  | unstarted e => some e.rule
  | settled c _ _ => some c.rule

def error? : RuleRun → Option RuleError
  | skipped _ _ => none
  | rejected e => some e
  | unstarted e => some e
  | settled _ _ e => e

def log : RuleRun → List LogEntry
  | skipped rule reason => [.ruleSkipped rule reason]
  | rejected e => [.ruleFailed e]
  | unstarted e => [.ruleStarted e.rule, .ruleFailed e]
  | settled c s e =>
    [.ruleStarted c.rule] ++ s.log ++ (e.map LogEntry.ruleFailed).toList ++
      [.ruleFinished c.rule e.isNone s.reported]

/-- The store after the rule, given the one before. -/
def storeAfter (before : Store) : RuleRun → Store
  | settled _ s _ => s.store
  | _ => before

end RuleRun

/-- The severity of violations that are reported without one. -/
structure Runner where
  severity : Severity

/-- What is known when a run is over. -/
structure RunReport where
  result : Result
  runs : List RuleRun
  log : List LogEntry

namespace Runner

/-- The configuration of a rule; null is none. -/
def configOf (configs : Keyed ConfigInput) (rule : String) : Option ConfigInput :=
  (configs.get? rule).filter fun
    | .flat v => !v.isNull
    | _ => true

/-- Runs a check in its context, which is closed afterwards. -/
def settle (c : Context) (store : Store) (check : Check Unit) : Except Fault RuleRun :=
  match check.run c (Session.start store) with
  | (.ok (), s) => .ok (.settled c s.close none)
  | (.error f, s) =>
    if f.isFatal then .error f else .ok (.settled c s.close (some (.ofFault c.rule f)))

def start (r : Runner) (index : Index Layer) (store : Store) (rule : Rule) (config : RuleConfig) :
    Except Fault RuleRun :=
  match Schema.compile rule.name rule.options with
  | .error f => .error f
  | .ok schema =>
    match OptionValues.check rule.name rule.options schema config with
    | .error f => .ok (.unstarted (.ofFault rule.name f))
    | .ok values =>
      settle ⟨rule.name, index, values, config.severity.getD r.severity⟩ store rule.check

def runRule (r : Runner) (index : Index Layer) (store : Store) (config : Option ConfigInput)
    (rule : Rule) : Except Fault RuleRun :=
  match config with
  | none => .ok (.skipped rule.name .unconfigured)
  | some given =>
    match RuleConfig.coerce rule.name given with
    | .error (.option f) => .ok (.rejected (.ofFault rule.name (.option f)))
    | .error f => .error f
    | .ok config =>
      if config.active then r.start index store rule config
      else .ok (.skipped rule.name .inactive)

/-- Runs rules in order over a store; yields what became of each, and the store. -/
def runRules (r : Runner) (index : Index Layer) (configs : Keyed ConfigInput) (store : Store) :
    List Rule → Except Fault (List RuleRun × Store)
  | [] => .ok ([], store)
  | rule :: rest => do
    let one ← r.runRule index store (configOf configs rule.name) rule
    let (others, store) ← r.runRules index configs (one.storeAfter store) rest
    return (one :: others, store)

def report (index : Index Layer) (runs : List RuleRun) (store : Store) : RunReport :=
  let rulesRun := runs.filterMap RuleRun.ranRule?
  let result := Result.build store (runs.filterMap RuleRun.error?) rulesRun
  let last := LogEntry.runComplete rulesRun.length index.size store.length result.errors.length
  { result, runs, log := runs.flatMap RuleRun.log ++ [last] }

def runDocument (r : Runner) (document : Document) (registry : Registry)
    (configs : Keyed ConfigInput) : Except Fault RunReport := do
  let index ← Index.build (some document.pages)
  let (runs, store) ← r.runRules index configs [] registry.rules
  return report index runs store

/-- Runs rules over a document, or over what came of loading one. Rules with one name are noticed
first. -/
def runLoaded (r : Runner) (loaded : Except Fault Document) (rules : List Rule)
    (configs : Keyed ConfigInput) : Except Fault RunReport := do
  let registry ← Registry.ofList rules
  r.runDocument (← loaded) registry configs

def run (r : Runner) (source : Document.Source) (rules : List Rule) (configs : Keyed ConfigInput) :
    Except Fault RunReport :=
  r.runLoaded (Document.load source) rules configs

end Runner

end DesignLint
