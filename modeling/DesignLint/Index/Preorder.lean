import DesignLint.Index.Basic

/-! # The index by recursion -/

namespace DesignLint

variable {α : Type} [Viewable α]

mutual

/-- Visits a tree at a pointer: its node, then what is below. -/
def Walk.visitTree (pointer : String) (w : Walk α) : Tree α → Except Fault (Walk α)
  | .node a ts => do visitTrees (pointer ++ "/layers/") 0 (← w.visit a pointer) ts

def Walk.visitTrees (base : String) (i : Nat) (w : Walk α) :
    List (Tree α) → Except Fault (Walk α)
  | [] => .ok w
  | t :: ts => do visitTrees base (i + 1) (← visitTree (base ++ toString i) w t) ts

end

def Index.ofPreorder (ts : List (Tree α)) : Except Fault (Index α) :=
  (Walk.visitTrees "/pages/" 0 .start ts).map Walk.index

end DesignLint
