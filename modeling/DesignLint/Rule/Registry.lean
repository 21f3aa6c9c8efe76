import DesignLint.Rule.Basic

/-! # Registries -/

namespace DesignLint

structure Registry where
  rules : List Rule

namespace Registry

def empty : Registry := ⟨[]⟩

def names (r : Registry) : List String := r.rules.map (·.name)

def contains (r : Registry) (name : String) : Bool := r.names.contains name

def register (r : Registry) (rule : Rule) : Except Fault Registry :=
  if r.contains rule.name then .error (.duplicateRule rule.name) else .ok ⟨r.rules ++ [rule]⟩

def ofList (rules : List Rule) : Except Fault Registry := rules.foldlM register empty

/-- The registry without the rule of a name, and whether there was one. -/
def unregister (r : Registry) (name : String) : Bool × Registry :=
  (r.contains name, ⟨r.rules.filter (·.name ≠ name)⟩)

def get? (r : Registry) (name : String) : Option Rule := r.rules.find? (·.name == name)

/-- Unregisters each rule while going through the registry: the names met, and what is left. -/
def drain (r : Registry) : List String × Registry :=
  (r.names, r.names.foldl (fun s n => (s.unregister n).2) r)

def size (r : Registry) : Nat := r.rules.length

end Registry

end DesignLint
