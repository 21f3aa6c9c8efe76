import DesignLint.RuleOption.Schema
import DesignLint.Severity

/-! # Configurations of rules -/

namespace DesignLint

structure RuleConfig where
  active : Bool
  severity : Option Severity
  title : Option String
  options : Keyed Json

inductive ConfigInput
  | flat (v : Json)
  /-- A flat form in which some keys are no texts; those are named apart. -/
  | misnamed (keys : List Json) (fields : Keyed Json)
  | ready (c : RuleConfig)

namespace RuleConfig

def recordName : String := "RuleConfig"

/-- The keys of the flat form that are no options. -/
def reservedKeys : List String := ["active", "severity", "rule_title", "ruleTitle"]

def ofFields (r : Keyed Json) : Checked RuleConfig :=
  (Checked.both (Field.defaulted ["active"] Field.strictFlag true r)
    (Checked.both
      (Field.defaulted ["severity"] (Field.optional (Field.choice Severity.names)) none r)
      (Checked.both (Field.defaulted ["rule_title"] (Field.optional Field.text) none r)
        (Field.defaulted ["options"] Field.object [] r)))).map
    fun (active, severity, title, options) => ⟨active, severity, title, options⟩

def optionsOf (flat : Keyed Json) : Keyed Json := flat.only (!reservedKeys.contains ·)

/-- The fields that the flat form stands for. The older spelling of the title counts only when the
newer one is absent. -/
def fieldsOf (flat : Keyed Json) : Keyed Json := [
  ("active", (flat.get? "active").getD (.bool true)),
  ("severity", (flat.get? "severity").getD .null),
  ("rule_title", ((flat.first? ["rule_title", "ruleTitle"]).map (·.2)).getD .null),
  ("options", .obj (optionsOf flat))]

def ofRecord (r : Keyed Json) : Except Fault RuleConfig :=
  (ofFields r).mapError (.invalidRecord recordName)

def ofFlat (v : Json) : Except Fault RuleConfig :=
  match v with
  | .obj flat => ofRecord (fieldsOf flat)
  | _ => .error (.lacking v.typeName "get")

def toFlat (c : RuleConfig) : Keyed Json :=
  let base : Keyed Json := Keyed.merge [("active", .bool c.active)] c.options
  let withSeverity := match c.severity with
    | some s => base.put "severity" (.str s.name)
    | none => base
  match c.title with
  | some t => if t.isEmpty then withSeverity else withSeverity.put "rule_title" (.str t)
  | none => withSeverity

/-- A key that is no text as a step on the way to it; a flag counts as a number. -/
def keySegment (k : Json) : Segment :=
  match k with
  | .bool b => .index b.toNat
  | _ => .key k.literal

def keyProblem (k : Json) : Problem :=
  ⟨[.key "options", keySegment k, .key "[key]"], .notText, k⟩

/-- The configuration of a flat form for a rule. Bad reserved values and keys that are no texts are
faults of the rule's options. -/
def ofFlatFor (rule : String) (keys : List Json) (v : Json) : Except Fault RuleConfig :=
  let refused (problems : List Problem) : Except Fault RuleConfig :=
    .error (.option (.invalid rule ((problems ++ keys.map keyProblem).map Problem.line)))
  match ofFlat v with
  | .ok c => if keys.isEmpty then .ok c else refused []
  | .error (.invalidRecord _ problems) => refused problems
  | .error f => .error f

def coerce (rule : String) : ConfigInput → Except Fault RuleConfig
  | .ready c => .ok c
  | .flat v => ofFlatFor rule [] v
  | .misnamed keys fields => ofFlatFor rule keys (.obj fields)

end RuleConfig

/-- Whether a flat form makes a rule active: only the value true, or no value, does. -/
def RuleConfig.isActiveFlat (flat : Keyed Json) : Bool :=
  match (flat.get? "active").getD (.bool true) with
  | .bool b => b
  | _ => false

def ConfigInput.isActive : ConfigInput → Except Fault Bool
  | .ready c => .ok c.active
  | .flat (.obj fields) => .ok (RuleConfig.isActiveFlat fields)
  | .flat v => .error (.lacking v.typeName "get")
  | .misnamed _ fields => .ok (RuleConfig.isActiveFlat fields)

end DesignLint
