import DesignLint.Json.Text
import DesignLint.Rule.Registry

/-! # Assistants -/

namespace DesignLint

structure Assistant where
  name : String
  /-- The rules in the order in which they run. -/
  rules : List Rule
  /-- Configurations by the name of the rule, in flat form. -/
  config : Keyed Json
  /-- The keys of configurations that are no texts, by the name of the rule. -/
  misnamed : Keyed (List Json) := []

namespace Assistant

def registry (a : Assistant) : Except Fault Registry := Registry.ofList a.rules

def ruleNames (a : Assistant) : List String := a.rules.map (·.name)

/-- The two halves of the pair that a value is; `position` is its place among others. -/
def pair (position : Nat) (v : Json) : Except Fault (Json × Json) :=
  match v with
  | .arr [k, w] => if k.isKey then .ok (k, w) else .error (.misuse (.noKey k.typeName))
  | .arr l => .error (.pairLength position l.length)
  | .str s => match s.toList with
    | [a, b] => .ok (.str a.toString, .str b.toString)
    | l => .error (.pairLength position l.length)
  | .obj fields => match fields with
    | [(a, _), (b, _)] => .ok (.str a, .str b)
    | _ => .error (.pairLength position fields.length)
  | _ => .error (.misuse (.noPair position))

def pairs (i : Nat) : List Json → Except Fault (List (Json × Json))
  | [] => .ok []
  | v :: rest => do
    let p ← pair i v
    return p :: (← pairs (i + 1) rest)

/-- The pairs of the mapping that a JSON value is or lists. -/
def mapping (v : Json) : Except Fault (List (Json × Json)) :=
  match v with
  | .obj fields => .ok (fields.map fun e => (.str e.1, e.2))
  | .arr l => pairs 0 l
  | .str s => pairs 0 (s.toList.map fun c => .str c.toString)
  | _ => .error (.misuse (.noSequence v.typeName))

def strangers (pairs : List (Json × Json)) : List Json :=
  (pairs.map (·.1)).filter fun
    | .str _ => false
    | _ => true

/-- What is given as the configuration of a new rule. -/
inductive Given
  | nothing
  /-- A value, with what comes of making a mapping of it. That goes through the value by its own
  means, so it may fail for any value, a mapping included. -/
  | value (pairs : Except Fault (List (Json × Json)))

/-- A JSON value as it is given; null is nothing. Only objects are mappings of their own, and going
through them never fails. -/
def Given.ofJson : Json → Given
  | .null => .nothing
  | v => .value (mapping v)

/-- The assistant after a rule was to be added, and whether that failed. The rule is added before
its configuration is looked at. -/
def addGiven (a : Assistant) (rule : Rule) (given : Given) : Except Fault Unit × Assistant :=
  if a.ruleNames.contains rule.name then (.error (.duplicateRule rule.name), a)
  else
    let grown := { a with rules := a.rules ++ [rule] }
    match given with
    | .nothing => (.ok (), grown)
    | .value (.ok pairs) => (.ok (), { grown with
        config := grown.config.put rule.name
          (.obj (Keyed.ofPairs (pairs.map fun e => (e.1.keyText, e.2))))
        misnamed := grown.misnamed.put rule.name (strangers pairs) })
    | .value (.error f) => (.error f, grown)

def add (a : Assistant) (rule : Rule) (config : Json) : Except Fault Unit × Assistant :=
  a.addGiven rule (.ofJson config)

def remove (a : Assistant) (name : String) : Assistant :=
  { a with
    rules := a.rules.filter (·.name ≠ name)
    config := a.config.erase name
    misnamed := a.misnamed.erase name }

end Assistant

end DesignLint
