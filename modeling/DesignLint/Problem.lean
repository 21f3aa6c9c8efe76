import DesignLint.Json.Value

/-! # Problems of values -/

namespace DesignLint

/-- A step into a value: a key of an object or a place in an array. -/
inductive Segment
  | key (k : String)
  | index (i : Nat)
  deriving DecidableEq

namespace Segment

def text : Segment → String
  | key k => k
  | index i => toString i

def toJson : Segment → Json
  | key k => .str k
  | index i => .whole i

end Segment

inductive Complaint
  | missing
  | notText
  | shortText (least : Nat)
  | longText (most : Nat)
  | unmatched (pattern : String)
  | notNumber
  | numberForm
  | notWhole
  | wholeForm
  | wholeSize
  | fraction
  | notFinite
  | below (bound : Number)
  | above (bound : Number)
  | notFlag
  | flagForm
  | notList
  | shortList (least actual : Nat)
  | longList (most actual : Nat)
  | notObject
  | notRecord (record : String)
  | notFields
  | notAmong (choices : List String)
  | notFault
  | notJson (reason : String)

namespace Complaint

def code : Complaint → String
  | missing => "missing"
  | notText => "string_type"
  | shortText _ => "string_too_short"
  | longText _ => "string_too_long"
  | unmatched _ => "string_pattern_mismatch"
  | notNumber => "float_type"
  | numberForm => "float_parsing"
  | notWhole => "int_type"
  | wholeForm => "int_parsing"
  | wholeSize => "int_parsing_size"
  | fraction => "int_from_float"
  | notFinite => "finite_number"
  | below _ => "greater_than_equal"
  | above _ => "less_than_equal"
  | notFlag => "bool_type"
  | flagForm => "bool_parsing"
  | notList => "list_type"
  | shortList _ _ => "too_short"
  | longList _ _ => "too_long"
  | notObject => "dict_type"
  | notRecord _ => "model_type"
  | notFields => "model_attributes_type"
  | notAmong _ => "enum"
  | notFault => "is_instance_of"
  | notJson _ => "json_invalid"

/-- `n` of a thing, in the plural unless it is one. -/
def counted (n : Nat) (thing : String) : String :=
  toString n ++ " " ++ thing ++ (if n = 1 then "" else "s")

def choiceText : List String → String
  | [] => ""
  | [c] => Text.quoted c
  | [c, d] => Text.quoted c ++ " or " ++ Text.quoted d
  | c :: rest => Text.quoted c ++ ", " ++ choiceText rest

def message : Complaint → String
  | missing => "Field required"
  | notText => "Input should be a valid string"
  | shortText n => "String should have at least " ++ counted n "character"
  | longText n => "String should have at most " ++ counted n "character"
  | unmatched p => "String should match pattern '" ++ p ++ "'"
  | notNumber => "Input should be a valid number"
  | numberForm => "Input should be a valid number, unable to parse string as a number"
  | notWhole => "Input should be a valid integer"
  | wholeForm => "Input should be a valid integer, unable to parse string as an integer"
  | wholeSize => "Unable to parse input string as an integer, exceeded maximum size"
  | fraction => "Input should be a valid integer, got a number with a fractional part"
  | notFinite => "Input should be a finite number"
  | below b => "Input should be greater than or equal to " ++ b.boundText
  | above b => "Input should be less than or equal to " ++ b.boundText
  | notFlag => "Input should be a valid boolean"
  | flagForm => "Input should be a valid boolean, unable to interpret input"
  | notList => "Input should be a valid list"
  | shortList n m =>
    "List should have at least " ++ counted n "item" ++ " after validation, not " ++ toString m
  | longList n m =>
    "List should have at most " ++ counted n "item" ++ " after validation, not " ++ toString m
  | notObject => "Input should be a valid dictionary"
  | notRecord r => "Input should be a valid dictionary or instance of " ++ r
  | notFields => "Input should be a valid dictionary or object to extract fields from"
  | notAmong choices => "Input should be " ++ choiceText choices
  | notFault => "Input should be an instance of BaseException"
  | notJson _ => "JSON decode error"

end Complaint

/-- A complaint about the value found at a place. -/
structure Problem where
  path : List Segment
  complaint : Complaint
  found : Json

namespace Problem

def message (p : Problem) : String := p.complaint.message

/-- The problem seen from one level further out. -/
def within (s : Segment) (p : Problem) : Problem := { p with path := s :: p.path }

def dotted (path : List Segment) : String := ".".intercalate (path.map Segment.text)

def line (p : Problem) : String := dotted p.path ++ ": " ++ p.message

end Problem

/-- A value read, or the problems that prevent it. -/
abbrev Checked (α : Type) := Except (List Problem) α

namespace Checked

def complain {α : Type} (c : Complaint) (found : Json) : Checked α := .error [⟨[], c, found⟩]

def within {α : Type} (s : Segment) (r : Checked α) : Checked α :=
  r.mapError (·.map (·.within s))

/-- Both values, or the problems of both. -/
def both {α β : Type} (a : Checked α) (b : Checked β) : Checked (α × β) :=
  match a, b with
  | .ok x, .ok y => .ok (x, y)
  | .ok _, .error q => .error q
  | .error p, .ok _ => .error p
  | .error p, .error q => .error (p ++ q)

def all {α : Type} : List (Checked α) → Checked (List α)
  | [] => .ok []
  | r :: rest => (both r (all rest)).map fun p => p.1 :: p.2

def problems {α : Type} : Checked α → List Problem
  | .ok _ => []
  | .error p => p

theorem problems_both {α β : Type} (a : Checked α) (b : Checked β) :
    (both a b).problems = a.problems ++ b.problems := by
  cases a <;> cases b <;> simp [both, problems]

end Checked

end DesignLint
