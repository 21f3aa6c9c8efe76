import DesignLint.Json.Value

/-! # Counting layers -/

namespace DesignLint

namespace Json

mutual

def size : Json → Nat
  | arr items => sizeAll items + 1
  | obj fields => sizeFields fields + 1
  | _ => 1

def sizeAll : List Json → Nat
  | [] => 0
  | v :: rest => size v + sizeAll rest

def sizeFields : List (String × Json) → Nat
  | [] => 0
  | (_, v) :: rest => size v + sizeFields rest

end

end Json

namespace LayerCount

/-- The keys that lead to layers. -/
def keys : List String := ["document", "pages", "layers"]

def ofFields (fields : Keyed Json) : Nat := if fields.has "_class" then 1 else 0

def next : Json → List Json
  | .obj fields => keys.filterMap (Keyed.get? fields)
  | .arr items => items
  | _ => []

def one : Json → Nat
  | .obj fields => ofFields fields
  | _ => 0

/-- Counts the values on a stack and all they lead to. -/
def loop : Nat → List Json → Nat → Nat
  | 0, _, count => count
  | _ + 1, [], count => count
  | fuel + 1, v :: stack, count => loop fuel ((next v).reverse ++ stack) (count + one v)

def count (v : Json) : Nat := loop (v.size + 1) [v] 0

/-! ## The count by recursion -/

mutual

/-- The layers of a value, itself included. -/
def recursive : Json → Nat
  | .obj fields => ofFields fields + recursiveFields fields
  | .arr items => recursiveAll items
  | _ => 0

def recursiveAll : List Json → Nat
  | [] => 0
  | v :: rest => recursive v + recursiveAll rest

def recursiveFields : List (String × Json) → Nat
  | [] => 0
  | (k, v) :: rest => (if keys.contains k then recursive v else 0) + recursiveFields rest

end

end LayerCount

end DesignLint
