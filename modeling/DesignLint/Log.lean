import DesignLint.Severity

/-! # The log -/

namespace DesignLint

inductive ErrorKind
  | optionValidationFailed
  | optionNotDeclared
  | optionMissing
  | checkExecutionError
  deriving DecidableEq

namespace ErrorKind

def name : ErrorKind → String
  | optionValidationFailed => "option_validation_failed"
  | optionNotDeclared => "option_not_declared"
  | optionMissing => "option_missing"
  | checkExecutionError => "check_execution_error"

def names : List (String × ErrorKind) :=
  [optionValidationFailed, optionNotDeclared, optionMissing, checkExecutionError].map
    fun k => (k.name, k)

def ofFault : Fault → ErrorKind
  | .option (.invalid _ _) => optionValidationFailed
  | .option (.notDeclared _ _) => optionNotDeclared
  | .option (.missing _ _) => optionMissing
  | .option (.stated name _ _) => match name with
    | "OptionValidationFailed" => optionValidationFailed
    | "OptionNotDeclared" => optionNotDeclared
    | "OptionMissing" => optionMissing
    | _ => checkExecutionError
  | _ => checkExecutionError

end ErrorKind

/-- A rule that did not run to its end. -/
structure RuleError where
  rule : String
  kind : ErrorKind
  text : String
  type : String

def RuleError.ofFault (rule : String) (f : Fault) : RuleError :=
  { rule, kind := ErrorKind.ofFault f, text := f.shown, type := f.name }

inductive LogLevel
  | debug
  | info
  | warning
  deriving DecidableEq

def LogLevel.name : LogLevel → String
  | debug => "debug"
  | info => "info"
  | warning => "warning"

inductive SkipReason
  | unconfigured
  | inactive
  deriving DecidableEq

def SkipReason.name : SkipReason → String
  | unconfigured => "unconfigured"
  | inactive => "inactive"

structure Summary where
  info : Nat
  warn : Nat
  error : Nat
  deriving DecidableEq

def Summary.toJson (s : Summary) : Json :=
  .obj [("info", .whole s.info), ("warn", .whole s.warn), ("error", .whole s.error)]

inductive LogEntry
  | ruleSkipped (rule : String) (reason : SkipReason)
  | ruleStarted (rule : String)
  | violationReported (rule nodeId : String)
  | ruleFailed (error : RuleError)
  | ruleFinished (rule : String) (succeeded : Bool) (violations : Nat)
  | runComplete (rulesRun nodes violations ruleErrors : Nat)
  | configLoaded (path : String) (rules : Nat)
  | unknownRule (rule assistant : String)
  | textsUnrendered (rule text : String)
  | assistantRunComplete (assistant : String) (summary : Summary) (failedRules : List String)

namespace LogEntry

def level : LogEntry → LogLevel
  | ruleSkipped _ _ => .debug
  | ruleStarted _ => .debug
  | violationReported _ _ => .debug
  | ruleFailed _ => .warning
  | ruleFinished _ _ _ => .debug
  | runComplete _ _ _ _ => .info
  | configLoaded _ _ => .info
  | unknownRule _ _ => .warning
  | textsUnrendered _ _ => .warning
  | assistantRunComplete _ _ _ => .info

def event : LogEntry → String
  | ruleSkipped _ _ => "rule_skipped"
  | ruleStarted _ => "rule_started"
  | violationReported _ _ => "violation_reported"
  | ruleFailed _ => "rule_failed"
  | ruleFinished _ _ _ => "rule_finished"
  | runComplete _ _ _ _ => "rules_run_complete"
  | configLoaded _ _ => "rule_config_loaded"
  | unknownRule _ _ => "unknown_rule_config"
  | textsUnrendered _ _ => "rule_texts_unrendered"
  | assistantRunComplete _ _ _ => "assistant_run_complete"

def fields : LogEntry → Keyed Json
  | ruleSkipped rule reason => [("rule", .str rule), ("reason", .str reason.name)]
  | ruleStarted rule => [("rule", .str rule)]
  | violationReported rule nodeId => [("rule", .str rule), ("node_id", .str nodeId)]
  | ruleFailed e =>
    [("rule", .str e.rule), ("kind", .str e.kind.name), ("error", .str e.text),
      ("error_type", .str e.type)]
  | ruleFinished rule succeeded violations =>
    [("rule", .str rule), ("state", .str (if succeeded then "succeeded" else "failed")),
      ("violations", .whole violations)]
  | runComplete rulesRun nodes violations ruleErrors =>
    [("rules_run", .whole rulesRun), ("nodes", .whole nodes), ("violations", .whole violations),
      ("rule_errors", .whole ruleErrors)]
  | configLoaded path rules => [("path", .str path), ("rules", .whole rules)]
  | unknownRule rule assistant => [("rule", .str rule), ("assistant", .str assistant)]
  | textsUnrendered rule text => [("rule", .str rule), ("error", .str text)]
  | assistantRunComplete assistant summary failedRules =>
    [("assistant", .str assistant), ("summary", summary.toJson),
      ("rule_errors", .texts failedRules)]

def toJson (e : LogEntry) : Json :=
  .obj ([("event", .str e.event), ("log_level", .str e.level.name)] ++ e.fields)

end LogEntry

end DesignLint
