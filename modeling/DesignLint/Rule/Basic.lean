import DesignLint.Check.Basic

/-! # Rules -/

namespace DesignLint

inductive RuleText
  | fixed (s : String)
  | derived (render : Keyed Json → Except Fault String)
  /-- A value of some kind that is no text. -/
  | unusable (kind : String)

namespace RuleText

def isFixed : RuleText → Except Fault Bool
  | fixed _ => .ok true
  | derived _ => .ok false
  | unusable kind => .error (.misuse (.noText kind))

def render (t : RuleText) (options : Keyed Json) : Except Fault String :=
  match t with
  | fixed s => .ok s
  | derived f => f options
  | unusable kind => .error (.misuse (.noText kind))

end RuleText

structure Rule where
  sort : String
  name : String
  title : RuleText
  description : RuleText
  options : List Declaration
  check : Check Unit

def Rule.literal (r : Rule) : String := "<" ++ r.sort ++ " " ++ r.name ++ ">"

end DesignLint
