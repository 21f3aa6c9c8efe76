import DesignLint.Field
import DesignLint.Severity

/-! # Violations -/

namespace DesignLint

structure Violation where
  rule : String
  message : String
  severity : Severity
  nodeId : String
  nodeName : String
  nodeClass : String
  pointer : Option String

namespace Violation

def recordName : String := "Violation"

def ofFields (r : Keyed Json) : Checked Violation :=
  (Checked.both (Field.required ["rule_name"] Field.text r)
    (Checked.both (Field.required ["message"] Field.text r)
      (Checked.both (Field.required ["severity"] (Field.choice Severity.names) r)
        (Checked.both (Field.required ["node_id"] Field.text r)
          (Checked.both (Field.defaulted ["node_name"] Field.text "" r)
            (Checked.both (Field.defaulted ["node_class"] Field.text "" r)
              (Field.defaulted ["pointer"] (Field.optional Field.text) none r))))))).map
    fun (rule, message, severity, nodeId, nodeName, nodeClass, pointer) =>
      { rule, message, severity, nodeId, nodeName, nodeClass, pointer }

def ofRecord (r : Keyed Json) : Except Fault Violation :=
  (ofFields r).mapError (.invalidRecord recordName)

end Violation

/-- Violations in the order in which they were reported. -/
abbrev Store := List Violation

namespace Store

def ofRule (s : Store) (rule : String) : List Violation := List.filter (fun v => v.rule = rule) s

def countFor (s : Store) (rule : String) : Nat := (s.ofRule rule).length

end Store

end DesignLint
