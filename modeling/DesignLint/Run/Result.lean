import DesignLint.Log
import DesignLint.Violation

/-! # Results of runs -/

namespace DesignLint

namespace Summary

def ofViolations (l : List Violation) : Summary where
  info := l.countP (·.severity = .info)
  warn := l.countP (·.severity = .warn)
  error := l.countP (·.severity = .error)

def add (a b : Summary) : Summary := ⟨a.info + b.info, a.warn + b.warn, a.error + b.error⟩

theorem ofViolations_append (l m : List Violation) :
    ofViolations (l ++ m) = (ofViolations l).add (ofViolations m) := by
  simp [ofViolations, add, List.countP_append]

end Summary

namespace RuleError

def recordName : String := "RuleError"

/-- A field that holds nothing but null, since no value of a record is a fault. -/
def nothing (v : Json) : Checked Unit :=
  if v.isNull then .ok () else Checked.complain .notFault v

def ofFields (r : Keyed Json) : Checked RuleError :=
  (Checked.both (Field.required ["rule_name"] Field.text r)
    (Checked.both (Field.required ["kind"] (Field.choice ErrorKind.names) r)
      (Checked.both (Field.required ["error"] Field.text r)
        (Checked.both (Field.required ["error_type"] Field.text r)
          (Field.defaulted ["exception"] nothing () r))))).map
    fun (rule, kind, text, type, ()) => { rule, kind, text, type }

def ofRecord (r : Keyed Json) : Except Fault RuleError :=
  (ofFields r).mapError (.invalidRecord recordName)

def toJson (e : RuleError) : Json :=
  .obj [("rule_name", .str e.rule), ("kind", .str e.kind.name), ("error", .str e.text),
    ("error_type", .str e.type)]

end RuleError

namespace Violation

def toJson (v : Violation) : Json :=
  .obj [("rule_name", .str v.rule), ("message", .str v.message), ("severity", .str v.severity.name),
    ("node_id", .str v.nodeId), ("node_name", .str v.nodeName), ("node_class", .str v.nodeClass),
    ("pointer", (v.pointer.map Json.str).getD .null)]

end Violation

/-- What a value lists: the items of an array, the characters of a text or the keys of an object;
nothing when it is not given. -/
def listed (v : Json) : Except Fault (List Json) :=
  match v with
  | .arr l => .ok l
  | .str s => .ok (s.toList.map fun c => .str c.toString)
  | .obj fields => .ok (fields.map fun e => .str e.1)
  | _ => if v.isGiven then .error (.misuse (.noSequence v.typeName)) else .ok []

structure Result where
  violations : List Violation
  errors : List RuleError
  summary : Summary
  rulesRun : List String

namespace Result

def build (violations : List Violation) (errors : List RuleError) (rulesRun : List String) :
    Result :=
  ⟨violations, errors, Summary.ofViolations violations, rulesRun⟩

def recordName : String := "AssistantResult"

def namesFrom (i : Nat) : List Json → Checked (List String)
  | [] => .ok []
  | v :: rest =>
    (Checked.both ((Field.text v).within (.index i)) (namesFrom (i + 1) rest)).map fun p =>
      p.1 :: p.2

def ofGiven (violations : List Violation) (errors : List RuleError) (rulesRun : Json) :
    Except Fault Result := do
  let names ← ((namesFrom 0 (← listed rulesRun)).within (.key "rules_run")).mapError
    (.invalidRecord recordName)
  return build violations errors names

def violationsFor (r : Result) (rule : String) : List Violation :=
  r.violations.filter (·.rule = rule)

def errorsFor (r : Result) (rule : String) : List RuleError := r.errors.filter (·.rule = rule)

def toFields (r : Result) : Keyed Json := [
  ("violations", .arr (r.violations.map Violation.toJson)),
  ("rule_errors", .arr (r.errors.map RuleError.toJson)),
  ("summary", r.summary.toJson),
  ("rules_run", .texts r.rulesRun)]

end Result

end DesignLint
