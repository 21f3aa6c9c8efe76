/-! # Trees -/

namespace DesignLint

inductive Tree (α : Type)
  | node (label : α) (children : List (Tree α))

namespace Tree

variable {α β : Type}

instance [Inhabited α] : Inhabited (Tree α) := ⟨node default []⟩

def label : Tree α → α
  | node a _ => a

def children : Tree α → List (Tree α)
  | node _ ts => ts

mutual

def preorder : Tree α → List α
  | node a ts => a :: preorderAll ts

def preorderAll : List (Tree α) → List α
  | [] => []
  | t :: ts => preorder t ++ preorderAll ts

end

mutual

def size : Tree α → Nat
  | node _ ts => sizeAll ts + 1

def sizeAll : List (Tree α) → Nat
  | [] => 0
  | t :: ts => size t + sizeAll ts

end

mutual

def map (f : α → β) : Tree α → Tree β
  | node a ts => node (f a) (mapAll f ts)

def mapAll (f : α → β) : List (Tree α) → List (Tree β)
  | [] => []
  | t :: ts => map f t :: mapAll f ts

end

theorem sizeAll_append (s t : List (Tree α)) : sizeAll (s ++ t) = sizeAll s + sizeAll t := by
  induction s with
  | nil => simp [sizeAll]
  | cons u s ih => simp [sizeAll, ih, Nat.add_assoc]

end Tree

end DesignLint
