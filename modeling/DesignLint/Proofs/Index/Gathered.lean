import DesignLint.Index.Basic

/-! # What a walk has gathered -/

namespace DesignLint

/-! ## Kinds of nodes -/

/-- Every node is of `anyLayer` unless it has the class of pages. -/
def NodeView.isOf (v : NodeView) : Kind → Bool
  | .anyLayer => v.className? ≠ some Kind.pageClass
  | .anyGroup => v.className?.any Kind.groupClasses.contains
  | k => v.className?.bind Kind.ofClass? = some k

theorem Kind.ofClass?_specific {cls : String} {k : Kind} (h : Kind.ofClass? cls = some k) :
    k ≠ .anyLayer ∧ k ≠ .anyGroup := by
  obtain ⟨before, after, heq, _⟩ := List.lookup_eq_some_iff.mp h
  have hmem : (cls, k) ∈ Kind.classes := by rw [heq]; simp
  have hkinds : ∀ e ∈ Kind.classes, e.2 ≠ .anyLayer ∧ e.2 ≠ .anyGroup := by decide
  exact hkinds _ hmem

theorem NodeView.isOf_specific (v : NodeView) {k : Kind} (hlayer : k ≠ .anyLayer)
    (hgroup : k ≠ .anyGroup) : v.isOf k = decide (v.className?.bind Kind.ofClass? = some k) := by
  cases k <;> first | rfl | contradiction

namespace Buckets

variable {α : Type}

theorem get_putSpecific (b : Buckets α) (k? : Option Kind) (a : α) (k : Kind) :
    (b.putSpecific k? a).get k = if k? = some k then a :: b.get k else b.get k := by
  cases k? with
  | none => simp [putSpecific]
  | some j => simp [putSpecific, eq_comm]

theorem get_putGeneral (b : Buckets α) (cls? : Option String) (a : α) (k : Kind) :
    (b.putGeneral cls? a).get k =
      if k = .anyLayer ∧ cls? ≠ some Kind.pageClass ∨
          k = .anyGroup ∧ cls?.any Kind.groupClasses.contains then a :: b.get k
      else b.get k := by
  unfold putGeneral
  by_cases hpage : cls? = some Kind.pageClass
  · have hgroup : (some Kind.pageClass).any Kind.groupClasses.contains = false := by decide
    simp [hpage, hgroup]
  · by_cases hgroup : cls?.any Kind.groupClasses.contains
    · cases k <;> simp [hpage, hgroup]
    · cases k <;> simp [hpage, hgroup]

variable [Viewable α]

theorem get_file (b : Buckets α) (a : α) (k : Kind) :
    (b.file a).get k = if (view a).isOf k then a :: b.get k else b.get k := by
  rw [file, get_putGeneral, get_putSpecific]
  by_cases hk : k = .anyLayer ∨ k = .anyGroup
  · have hnone : (view a).className?.bind Kind.ofClass? ≠ some k := by
      intro h
      obtain ⟨cls, _, hcls⟩ := Option.bind_eq_some_iff.mp h
      have hne := Kind.ofClass?_specific hcls
      exact hk.elim hne.1 hne.2
    rcases hk with rfl | rfl
    · simp [hnone, NodeView.isOf]
    · cases h : (view a).className?.any Kind.groupClasses.contains <;>
        simp [hnone, NodeView.isOf, h]
  · obtain ⟨hlayer, hgroup⟩ := not_or.mp hk
    simp [hlayer, hgroup, NodeView.isOf_specific]

theorem get_foldl_file (l : List α) (b : Buckets α) (k : Kind) :
    (l.foldl file b).get k = (l.filter fun a => (view a).isOf k).reverse ++ b.get k := by
  induction l generalizing b with
  | nil => rfl
  | cons a rest ih =>
    rw [List.foldl_cons, ih, get_file, List.filter_cons]
    split <;> simp

end Buckets

namespace Walk

variable {α : Type} [Viewable α]

def after (l : List (Visit α)) : Walk α := ⟨l.reverse, (l.map (·.node)).foldl Buckets.file .empty⟩

theorem visit_after (l : List (Visit α)) (v : Visit α)
    (h : visitFault? l.reverse v.node v.pointer = none) :
    (after l).visit v.node v.pointer = .ok (after (l ++ [v])) := by
  simp [visit, after, h]

theorem visit_after_fault (l : List (Visit α)) (v : Visit α) (f : Fault)
    (h : visitFault? l.reverse v.node v.pointer = some f) :
    (after l).visit v.node v.pointer = .error f := by
  simp [visit, after, h]

theorem visits_index_after (l : List (Visit α)) : (after l).index.visits = l := by
  simp [after, index]

theorem nodes_index_after (l : List (Visit α)) (k : Kind) :
    (after l).index.nodes k = (l.map (·.node)).filter fun a => (view a).isOf k := by
  simp [after, index, Index.nodes, Buckets.get_foldl_file]

end Walk

end DesignLint
