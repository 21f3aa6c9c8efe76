import DesignLint.RuleOption.Config

/-! # Values of options -/

namespace DesignLint

structure OptionValues where
  rule : String
  declared : List String
  values : Keyed Json

namespace OptionValues

def get (o : OptionValues) (name : String) : Except Fault Json :=
  if !o.declared.contains name then .error (.option (.notDeclared o.rule name))
  else match o.values.get? name with
    | some v => .ok v
    | none => .error (.option (.missing o.rule name))

/-- What is supplied for the declared options: defaults, then the values of the configuration. -/
def supplied (declared : List Declaration) (config : RuleConfig) : Keyed Json :=
  (Declaration.defaults declared).merge
    (config.options.only fun k => declared.any fun d => d.name == k)

def check (rule : String) (declared : List Declaration) (schema : Schema) (config : RuleConfig) :
    Except Fault OptionValues :=
  match schema.check (supplied declared config) with
  | .ok values => .ok ⟨rule, declared.map (·.name), values⟩
  | .error problems => .error (.option (.invalid rule (problems.map Problem.line)))

def resolve (rule : String) (declared : List Declaration) (config : RuleConfig) :
    Except Fault OptionValues := do
  check rule declared (← Schema.compile rule declared) config

end OptionValues

end DesignLint
