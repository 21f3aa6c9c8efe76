import DesignLint.Index.Preorder
import DesignLint.Proofs.Tree.Path

/-! # The walk and the recursion -/

namespace DesignLint

variable {α : Type}

/-! ## Pointers -/

def pointerBelow (pointer : String) (steps : List Nat) : String :=
  steps.foldl (fun p j => p ++ "/layers/" ++ toString j) pointer

def pointerFrom (base : String) : List Nat → String
  | [] => base
  | i :: steps => pointerBelow (base ++ toString i) steps

/-- The pointer to the node at a path of a document: `/pages/i`, and one `/layers/j` for every step
down. -/
def pointerTo (path : List Nat) : String := pointerFrom "/pages/" path

def visitAt (pointer : List Nat → String) (e : List Nat × α) : Visit α := ⟨e.2, pointer e.1⟩

def visitsOf (pointer : String) (t : Tree α) : List (Visit α) :=
  (Tree.places t).map (visitAt (pointerBelow pointer))

def visitsFrom (base : String) (i : Nat) (ts : List (Tree α)) : List (Visit α) :=
  (Tree.placesFrom i ts).map (visitAt (pointerFrom base))

theorem visitsFrom_cons (base : String) (i : Nat) (t : Tree α) (ts : List (Tree α)) :
    visitsFrom base i (t :: ts) =
      visitsOf (base ++ toString i) t ++ visitsFrom base (i + 1) ts := by
  simp only [visitsFrom, visitsOf, Tree.placesFrom, List.map_append, List.map_map]
  rfl

theorem visitsOf_node (pointer : String) (a : α) (ts : List (Tree α)) :
    visitsOf pointer (.node a ts) = ⟨a, pointer⟩ :: visitsFrom (pointer ++ "/layers/") 0 ts := by
  have htail : ∀ e ∈ Tree.placesFrom 0 ts, visitAt (pointerBelow pointer) e =
      visitAt (pointerFrom (pointer ++ "/layers/")) e := by
    rintro ⟨path, b⟩ h
    cases path with
    | nil => exact absurd rfl (Tree.ne_nil_of_mem_placesFrom h)
    | cons i steps => rfl
  rw [visitsOf, Tree.places, List.map_cons, List.map_congr_left htail]
  rfl

def visitsOn (stack : List (Tree α × String)) : List (Visit α) :=
  stack.flatMap fun e => visitsOf e.2 e.1

theorem visitsOn_append (s t : List (Tree α × String)) :
    visitsOn (s ++ t) = visitsOn s ++ visitsOn t :=
  List.flatMap_append

theorem visitsOn_placed (base : String) (i : Nat) (ts : List (Tree α)) :
    visitsOn (placed base i ts) = visitsFrom base i ts := by
  induction ts generalizing i with
  | nil => rfl
  | cons t ts ih =>
    rw [visitsFrom_cons, ← ih (i + 1)]
    rfl

theorem map_placed (base : String) (i : Nat) (ts : List (Tree α)) :
    (placed base i ts).map (·.1) = ts := by
  induction ts generalizing i with
  | nil => rfl
  | cons t ts ih => simp [placed, ih]

namespace Walk

variable [Viewable α]

def visitAll (w : Walk α) (l : List (Visit α)) : Except Fault (Walk α) :=
  l.foldlM (fun w v => w.visit v.node v.pointer) w

theorem visitAll_cons (w : Walk α) (v : Visit α) (l : List (Visit α)) :
    w.visitAll (v :: l) = (w.visit v.node v.pointer).bind fun w => w.visitAll l := rfl

theorem visitAll_append (w : Walk α) (l m : List (Visit α)) :
    w.visitAll (l ++ m) = (w.visitAll l).bind fun w => w.visitAll m :=
  List.foldlM_append

/-! ## The recursion -/

mutual

theorem visitTree_eq (pointer : String) (w : Walk α) (t : Tree α) :
    visitTree pointer w t = w.visitAll (visitsOf pointer t) := by
  cases t with
  | node a ts =>
    rw [visitsOf_node, visitAll_cons, visitTree]
    congr
    funext w
    exact visitTrees_eq (pointer ++ "/layers/") 0 w ts

theorem visitTrees_eq (base : String) (i : Nat) (w : Walk α) (ts : List (Tree α)) :
    visitTrees base i w ts = w.visitAll (visitsFrom base i ts) := by
  cases ts with
  | nil => rfl
  | cons t ts =>
    rw [visitsFrom_cons, visitAll_append, visitTrees, visitTree_eq (base ++ toString i) w t]
    congr
    funext w
    exact visitTrees_eq base (i + 1) w ts

end

/-! ## The stack -/

/-- With fuel for every node on the stack, the walk visits them all in order. -/
theorem run_eq (fuel : Nat) (stack : List (Tree α × String)) (w : Walk α)
    (h : Tree.sizeAll (stack.map (·.1)) ≤ fuel) : run fuel stack w = w.visitAll (visitsOn stack) := by
  induction fuel generalizing stack w with
  | zero =>
    cases stack with
    | nil => rfl
    | cons e rest =>
      obtain ⟨⟨a, ts⟩, pointer⟩ := e
      simp [Tree.sizeAll, Tree.size] at h
  | succ fuel ih =>
    cases stack with
    | nil => rfl
    | cons e rest =>
      obtain ⟨⟨a, ts⟩, pointer⟩ := e
      have hfuel : Tree.sizeAll ((placedChildren pointer ts ++ rest).map (·.1)) ≤ fuel := by
        simp only [List.map_cons, Tree.sizeAll, Tree.size] at h
        rw [List.map_append, Tree.sizeAll_append, placedChildren, map_placed]
        omega
      have hvisits : visitsOn ((.node a ts, pointer) :: rest) =
          ⟨a, pointer⟩ :: visitsOn (placedChildren pointer ts ++ rest) := by
        rw [visitsOn_append, placedChildren, visitsOn_placed, ← List.cons_append, ← visitsOf_node]
        rfl
      rw [hvisits, visitAll_cons, run]
      congr
      funext w
      exact ih _ w hfuel

end Walk

/-! ## Whole documents -/

def visitsOfPages (ts : List (Tree α)) : List (Visit α) :=
  (Tree.placesAll ts).map (visitAt pointerTo)

theorem nodes_visitsOfPages (ts : List (Tree α)) :
    (visitsOfPages ts).map (·.node) = Tree.preorderAll ts := by
  rw [visitsOfPages, List.map_map, ← Tree.labels_placesAll ts]
  rfl

variable [Viewable α]

theorem Index.build_eq_visitAll (ts : List (Tree α)) :
    Index.build (some ts) = (Walk.start.visitAll (visitsOfPages ts)).map Walk.index := by
  have hfuel : Tree.sizeAll ((placedPages ts).map (·.1)) ≤ Tree.sizeAll ts :=
    Nat.le_of_eq (by rw [placedPages, map_placed])
  rw [Index.build, Walk.run_eq _ _ _ hfuel, placedPages, visitsOn_placed]
  rfl

theorem Index.ofPreorder_eq_visitAll (ts : List (Tree α)) :
    Index.ofPreorder ts = (Walk.start.visitAll (visitsOfPages ts)).map Walk.index := by
  rw [Index.ofPreorder, Walk.visitTrees_eq]
  rfl

end DesignLint
