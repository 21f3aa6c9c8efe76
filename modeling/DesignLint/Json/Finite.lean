import DesignLint.Json.Value

/-! # Finite values -/

namespace DesignLint.Json

mutual

def isFinite : Json → Bool
  | num (.float x) => x.isFinite
  | arr items => areFinite items
  | obj fields => areFiniteFields fields
  | _ => true

def areFinite : List Json → Bool
  | [] => true
  | v :: rest => isFinite v && areFinite rest

def areFiniteFields : List (String × Json) → Bool
  | [] => true
  | (_, v) :: rest => isFinite v && areFiniteFields rest

end

mutual

/-- The value with null for every number that is not finite. -/
def finite : Json → Json
  | num (.float x) => if x.isFinite then num (.float x) else null
  | arr items => arr (finiteAll items)
  | obj fields => obj (finiteFields fields)
  | v => v

def finiteAll : List Json → List Json
  | [] => []
  | v :: rest => finite v :: finiteAll rest

def finiteFields : List (String × Json) → List (String × Json)
  | [] => []
  | (k, v) :: rest => (k, finite v) :: finiteFields rest

end

end DesignLint.Json
