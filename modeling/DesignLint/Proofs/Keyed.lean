import DesignLint.Keyed
import Mathlib.Data.List.Nodup

/-! # Keyed lists put together -/

namespace DesignLint.Keyed

variable {α : Type} {m n : Keyed α}

/-! ## Values -/

theorem get?_eq_none_iff {k : String} : get? m k = none ↔ k ∉ keys m := by
  rw [mem_keys_iff, Bool.not_eq_true, Option.isSome_eq_false_iff, Option.isNone_iff_eq_none]

theorem get?_append (m n : Keyed α) (k : String) : get? (m ++ n) k = (get? m k).or (get? n k) := by
  induction m with
  | nil => rfl
  | cons e m ih =>
    rw [List.cons_append, get?_cons, get?_cons, ih]
    split <;> rfl

theorem get?_merge (m n : Keyed α) (k : String) :
    get? (merge m n) k = (get? n.reverse k).or (get? m k) := by
  induction n generalizing m with
  | nil => rfl
  | cons e n ih =>
    have hstep : merge m (e :: n) = merge (put m e.1 e.2) n := rfl
    rw [hstep, ih, List.reverse_cons, get?_append, get?_put, get?_cons, Option.or_assoc]
    split <;> rfl

theorem get?_ofPairs (entries : List (String × α)) (k : String) :
    get? (ofPairs entries) k = get? entries.reverse k := by
  rw [ofPairs, get?_merge, get?_nil, Option.or_none]

theorem get?_reverse (h : (keys m).Nodup) (k : String) : get? m.reverse k = get? m k := by
  induction m with
  | nil => rfl
  | cons e m ih =>
    obtain ⟨hnew, hrest⟩ := List.nodup_cons.mp h
    rw [List.reverse_cons, get?_append, ih hrest, get?_cons, get?_cons]
    by_cases hk : e.1 = k
    · subst hk
      have hnone : get? m e.1 = none := get?_eq_none_iff.mpr hnew
      simp [hnone]
    · simp [hk]

theorem get?_merge_of_nodup (m : Keyed α) (h : (keys n).Nodup) (k : String) :
    get? (merge m n) k = (get? n k).or (get? m k) := by
  rw [get?_merge, get?_reverse h]

theorem get?_only (m : Keyed α) (p : String → Bool) (k : String) :
    get? (only m p) k = if p k then get? m k else none := by
  induction m with
  | nil => simp [only]
  | cons e m ih =>
    unfold only at ih ⊢
    rw [List.filter_cons, get?_cons]
    by_cases hk : e.1 = k
    · subst hk
      by_cases hp : p e.1
      · simp [hp, get?_cons]
      · simp [hp, ih]
    · by_cases hp : p e.1
      · simp [hp, hk, ih, get?_cons]
      · simp [hp, hk, ih]

/-! ## The first of several names -/

theorem mem_of_first? {names : List String} {k : String} {v : α}
    (h : first? m names = some (k, v)) : k ∈ names ∧ get? m k = some v := by
  induction names with
  | nil => cases h
  | cons name rest ih =>
    rw [first?] at h
    split at h
    · rename_i w hw
      cases h
      exact ⟨List.mem_cons_self, hw⟩
    · obtain ⟨hmem, hget⟩ := ih h
      exact ⟨List.mem_cons_of_mem _ hmem, hget⟩

theorem get?_of_first?_eq_none {names : List String} (h : first? m names = none) :
    ∀ k ∈ names, get? m k = none := by
  induction names with
  | nil => simp
  | cons name rest ih =>
    rw [first?] at h
    split at h
    · cases h
    · rename_i hnone
      exact List.forall_mem_cons.mpr ⟨hnone, ih h⟩

/-! ## Entries left out -/

theorem only_eq_self {p : String → Bool} (h : ∀ e ∈ m, p e.1 = true) : only m p = m :=
  List.filter_eq_self.mpr h

theorem only_put (m : Keyed α) (p : String → Bool) (k : String) (v : α) :
    only (put m k v) p = if p k then put (only m p) k v else only m p := by
  induction m with
  | nil => simp [put, only, List.filter_cons]
  | cons e m ih =>
    unfold only at ih ⊢
    rw [put]
    by_cases hk : e.1 = k
    · subst hk
      by_cases hp : p e.1 <;> simp [hp, put]
    · rw [if_neg hk, List.filter_cons, List.filter_cons, ih]
      by_cases hp : p e.1 <;> by_cases hq : p k <;> simp [hp, hq, hk, put]

/-- Entries that are left out before a merge would have been left out after it. -/
theorem only_merge (m n : Keyed α) (p : String → Bool) :
    only (merge m n) p = merge (only m p) (only n p) := by
  induction n generalizing m with
  | nil => rfl
  | cons e n ih =>
    have hstep : merge m (e :: n) = merge (put m e.1 e.2) n := rfl
    rw [hstep, ih, only_put]
    by_cases hp : p e.1 <;> simp [only, merge, hp]

/-! ## Names -/

theorem mem_put {k : String} {v : α} {e : String × α} (h : e ∈ put m k v) : e = (k, v) ∨ e ∈ m := by
  induction m with
  | nil => exact .inl (List.mem_singleton.mp h)
  | cons d m ih =>
    rw [put] at h
    split at h
    · exact (List.mem_cons.mp h).imp_right (List.mem_cons_of_mem _)
    · rcases List.mem_cons.mp h with rfl | h
      · exact .inr List.mem_cons_self
      · exact (ih h).imp_right (List.mem_cons_of_mem _)

theorem keys_only (m : Keyed α) (p : String → Bool) : keys (only m p) = (keys m).filter p := by
  rw [keys, keys, only, List.filter_map]
  rfl

theorem nodup_keys_put (h : (keys m).Nodup) (k : String) (v : α) : (keys (put m k v)).Nodup := by
  rw [keys_put]
  split
  · exact h
  · rename_i hnew
    rw [List.nodup_append_comm]
    exact List.nodup_cons.mpr ⟨hnew, h⟩

theorem nodup_keys_merge (h : (keys m).Nodup) (n : Keyed α) : (keys (merge m n)).Nodup := by
  induction n generalizing m with
  | nil => exact h
  | cons e n ih => exact ih (nodup_keys_put h e.1 e.2)

theorem put_of_not_mem {k : String} (h : k ∉ keys m) (v : α) : put m k v = m ++ [(k, v)] := by
  induction m with
  | nil => rfl
  | cons e m ih =>
    obtain ⟨hne, hm⟩ := not_or.mp (mt List.mem_cons.mpr h)
    rw [put, if_neg (Ne.symm hne), ih hm, List.cons_append]

theorem merge_eq_append (hn : (keys n).Nodup) (hnew : ∀ k ∈ keys n, k ∉ keys m) :
    merge m n = m ++ n := by
  induction n generalizing m with
  | nil => exact (List.append_nil m).symm
  | cons e n ih =>
    obtain ⟨he, hn⟩ := List.nodup_cons.mp hn
    have hput : put m e.1 e.2 = m ++ [e] := put_of_not_mem (hnew e.1 List.mem_cons_self) e.2
    have hstep : merge m (e :: n) = merge (put m e.1 e.2) n := rfl
    rw [hstep, hput, ih hn, List.append_assoc, List.singleton_append]
    intro k hk hmem
    rw [keys, List.map_append, List.mem_append] at hmem
    rcases hmem with hold | hlast
    · exact hnew k (List.mem_cons_of_mem _ hk) hold
    · rw [List.map_singleton, List.mem_singleton] at hlast
      subst hlast
      exact he hk

theorem keys_put_of_eraseDups {names : List String} (h : keys m = names.eraseDups) (k : String)
    (v : α) : keys (put m k v) = (names ++ [k]).eraseDups := by
  rw [keys_put, List.eraseDups_append, h]
  by_cases hk : k ∈ names
  · simp [hk, List.removeAll]
  · simp [hk, List.removeAll, List.eraseDups_cons]

end DesignLint.Keyed
