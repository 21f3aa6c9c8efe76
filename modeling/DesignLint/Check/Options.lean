import DesignLint.Check.Basic

/-! # Options of bundled checks -/

namespace DesignLint.Check

def floatOption (name : String) : Check Float := do
  match ← Check.option name with
  | .num (.float x) => return x
  | v => .fail (.misuse (.noNumber v.typeName))

def textOption (name : String) : Check String := do
  match ← Check.option name with
  | .str s => return s
  | v => .fail (.misuse (.noSequence v.typeName))

def flagOption (name : String) : Check Bool := do
  return (← Check.option name).isGiven

/-- The texts among values, as far as there are only texts. -/
def textsOf : List Json → Except Fault (List String)
  | [] => .ok []
  | .str s :: rest => (textsOf rest).map (s :: ·)
  | v :: _ => .error (.misuse (.noSequence v.typeName))

def textsOption (name : String) : Check (List String) := do
  match ← Check.option name with
  | .arr l => Check.ofResult (textsOf l)
  | v => .fail (.misuse (.noSequence v.typeName))

end DesignLint.Check
