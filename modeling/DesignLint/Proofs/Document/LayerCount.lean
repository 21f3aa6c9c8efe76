import DesignLint.Proofs.Document.Path
import Mathlib.Algebra.Order.BigOperators.Group.List
import Mathlib.Algebra.GroupWithZero.Nat
import Mathlib.Algebra.Order.Group.Nat

/-! # The count of layers -/

namespace DesignLint

namespace Json

variable {r : Keyed Json} {ks : List String}

theorem sizeAll_append (l m : List Json) : sizeAll (l ++ m) = sizeAll l + sizeAll m := by
  induction l with
  | nil => simp [sizeAll]
  | cons v l ih => simp [sizeAll, ih, Nat.add_assoc]

theorem sizeAll_reverse (l : List Json) : sizeAll l.reverse = sizeAll l := by
  induction l with
  | nil => rfl
  | cons v l ih => simp [sizeAll, sizeAll_append, ih, Nat.add_comm]

theorem filterMap_get?_cons_of_notMem {e : String × Json} (h : e.1 ∉ ks) :
    ks.filterMap (Keyed.get? (e :: r)) = ks.filterMap r.get? := by
  refine List.filterMap_congr fun k hk => ?_
  rw [Keyed.get?_cons, if_neg]
  rintro rfl
  exact h hk

theorem sizeAll_filterMap_get?_le (hks : ks.Nodup) :
    sizeAll (ks.filterMap r.get?) ≤ sizeFields r := by
  induction r with
  | nil =>
    have hnone : ks.filterMap (Keyed.get? ([] : Keyed Json)) = [] := by simp
    rw [hnone]
    exact Nat.le_refl _
  | cons e r ih =>
    rw [sizeFields]
    by_cases h : e.1 ∈ ks
    · -- The member is taken for one of the names, and hides later ones from it.
      obtain ⟨before, after, rfl⟩ := List.append_of_mem h
      obtain ⟨-, hlater, hapart⟩ := List.nodup_append.mp hks
      have hbefore : e.1 ∉ before := fun hmem => hapart e.1 hmem e.1 List.mem_cons_self rfl
      have hafter : e.1 ∉ after := (List.nodup_cons.mp hlater).1
      have hrest : sizeAll (before.filterMap (Keyed.get? r)) +
          sizeAll (after.filterMap (Keyed.get? r)) ≤
            sizeAll ((before ++ e.1 :: after).filterMap (Keyed.get? r)) := by
        rw [List.filterMap_append, sizeAll_append, List.filterMap_cons]
        cases Keyed.get? r e.1 <;> simp [sizeAll]
      have htaken : Keyed.get? (e :: r) e.1 = some e.2 := if_pos rfl
      rw [List.filterMap_append, sizeAll_append, List.filterMap_cons, htaken,
        filterMap_get?_cons_of_notMem hbefore, filterMap_get?_cons_of_notMem hafter, sizeAll]
      omega
    · rw [filterMap_get?_cons_of_notMem h]
      exact Nat.le_trans ih (Nat.le_add_left _ _)

end Json

namespace LayerCount

theorem sizeAll_next_lt (v : Json) : Json.sizeAll (next v) < v.size := by
  cases v with
  | obj r =>
    rw [next, Json.size]
    exact Nat.lt_succ_of_le (Json.sizeAll_filterMap_get?_le (by decide))
  | arr items =>
    rw [next, Json.size]
    exact Nat.lt_succ_self _
  | _ => simp [next, Json.sizeAll, Json.size]

theorem size_lt_of_mem_next {v w : Json} (h : w ∈ next v) : w.size < v.size :=
  Nat.lt_of_le_of_lt (Json.size_le_sizeAll h) (sizeAll_next_lt v)

theorem sizeAll_popped_le {v : Json} {rest : List Json} {fuel : Nat}
    (h : Json.sizeAll (v :: rest) ≤ fuel + 1) :
    Json.sizeAll ((next v).reverse ++ rest) ≤ fuel := by
  have hnext := sizeAll_next_lt v
  rw [Json.sizeAll] at h
  rw [Json.sizeAll_append, Json.sizeAll_reverse]
  omega

def total (v : Json) : Nat := one v + ((next v).attach.map fun w => total w.1).sum
termination_by v.size
decreasing_by exact size_lt_of_mem_next w.2

theorem total_eq (v : Json) : total v = one v + ((next v).map total).sum := by
  rw [total, List.attach_map_val]

/-! ## The count comes to its end -/

/-- Counting what is on a stack, with so many layers counted before, ends with `m`. -/
inductive Counts : List Json → Nat → Nat → Prop
  | done (n : Nat) : Counts [] n n
  | pop {v : Json} {rest : List Json} {n m : Nat}
    (h : Counts ((next v).reverse ++ rest) (n + one v) m) : Counts (v :: rest) n m

/-- With fuel for every value on the stack, the count ends before the fuel does. -/
theorem counts_loop (fuel : Nat) (stack : List Json) (n : Nat) (h : Json.sizeAll stack ≤ fuel) :
    Counts stack n (loop fuel stack n) := by
  induction fuel generalizing stack n with
  | zero =>
    cases stack with
    | nil => exact .done n
    | cons v rest =>
      have hpos := sizeAll_next_lt v
      simp only [Json.sizeAll] at h
      omega
  | succ fuel ih =>
    cases stack with
    | nil => exact .done n
    | cons v rest => exact .pop (ih _ _ (sizeAll_popped_le h))

theorem eq_of_counts {stack : List Json} {n m : Nat} (h : Counts stack n m) :
    m = n + (stack.map total).sum := by
  induction h with
  | done n => simp
  | @pop v rest n m h ih =>
    rw [ih, List.map_append, List.sum_append, List.map_reverse, List.sum_reverse, List.map_cons,
      List.sum_cons, total_eq v]
    omega

theorem loop_eq (fuel : Nat) (stack : List Json) (n : Nat) (h : Json.sizeAll stack ≤ fuel) :
    loop fuel stack n = n + (stack.map total).sum :=
  eq_of_counts (counts_loop fuel stack n h)

theorem count_eq_total (v : Json) : count v = total v := by
  rw [count, loop_eq _ _ _ (by simp [Json.sizeAll])]
  simp

theorem counts_iff {v : Json} {m : Nat} : Counts [v] 0 m ↔ m = count v := by
  have hends : Counts [v] 0 (count v) := counts_loop _ _ _ (by simp [Json.sizeAll])
  constructor
  · intro h
    rw [eq_of_counts h, eq_of_counts hends]
  · rintro rfl
    exact hends

/-! ## Parts of a value -/

theorem total_arr (items : List Json) : total (.arr items) = (items.map total).sum := by
  simp [total_eq, one, next]

theorem total_member_le {r : Keyed Json} {key : String} {v : Json} (hkey : key ∈ keys)
    (hv : r.get? key = some v) : one (.obj r) + total v ≤ total (.obj r) := by
  rw [total_eq (.obj r)]
  have hmem : total v ∈ (next (.obj r)).map total :=
    List.mem_map_of_mem (List.mem_filterMap.mpr ⟨key, hkey, hv⟩)
  have hle := List.le_sum_of_mem hmem
  omega

theorem total_itemsUnder_le {key : String} (hkey : key ∈ keys) (v : Json) :
    one v + ((v.itemsUnder key).map total).sum ≤ total v := by
  unfold Json.itemsUnder
  split
  · rename_i items hitems
    cases v with
    | obj r =>
      rw [← total_arr]
      exact total_member_le hkey hitems
    | _ => cases hitems
  · rw [total_eq v]
    simp

end LayerCount

end DesignLint
