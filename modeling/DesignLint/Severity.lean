import DesignLint.Fault

/-! # Severities of violations -/

namespace DesignLint

inductive Severity
  | info
  | warn
  | error
  deriving DecidableEq

namespace Severity

/-- All severities with their names, the mildest first. -/
def names : List (String × Severity) := [("info", info), ("warn", warn), ("error", error)]

def name : Severity → String
  | info => "info"
  | warn => "warn"
  | error => "error"

def ofJson (v : Json) : Except Fault Severity :=
  match v with
  | .str s => match names.lookup s with
    | some x => .ok x
    | none => .error (.severity v)
  | _ => .error (.severity v)

theorem ofJson_name (x : Severity) : ofJson (.str x.name) = .ok x := by
  cases x <;> rfl

end Severity

end DesignLint
