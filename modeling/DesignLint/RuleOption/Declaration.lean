import DesignLint.Fault

/-! # Declared options -/

namespace DesignLint

inductive OptionType
  | string
  | number
  | integer
  | boolean
  | stringArray
  | numberArray
  | unknown (name : String)
  deriving DecidableEq

namespace OptionType

def name : OptionType → String
  | string => "string"
  | number => "number"
  | integer => "integer"
  | boolean => "boolean"
  | stringArray => "string_array"
  | numberArray => "number_array"
  | unknown name => name

def known : List OptionType := [string, number, integer, boolean, stringArray, numberArray]

def ofName (s : String) : OptionType := (known.find? (·.name == s)).getD (unknown s)

def isKnown : OptionType → Bool
  | unknown _ => false
  | _ => true

end OptionType

structure Declaration where
  name : String
  type : OptionType
  title : Json := .str ""
  description : Json := .str ""
  fallback : Option Json := none
  pattern : Json := .null
  minLength : Json := .null
  maxLength : Json := .null
  minimum : Json := .null
  maximum : Json := .null

namespace Declaration

def constraints (d : Declaration) : Keyed Json :=
  [("pattern", d.pattern), ("min_length", d.minLength), ("max_length", d.maxLength),
    ("minimum", d.minimum), ("maximum", d.maximum)].filter fun e => !e.2.isNull

def describe (d : Declaration) : Except Fault (Keyed Json) :=
  if d.type.isKnown then
    .ok (
      [("name", .str d.name), ("type", .str d.type.name), ("title", d.title),
        ("description", d.description)] ++
      (d.fallback.map fun v => ("default", v)).toList ++ d.constraints)
  else .error (.lacking "str" "value")

/-- The defaults by name; of several options with one name the last default counts. -/
def defaults (declared : List Declaration) : Keyed Json :=
  Keyed.ofPairs (declared.filterMap fun d => d.fallback.map fun v => (d.name, v))

end Declaration

end DesignLint
