import DesignLint.Tree
import Mathlib.Data.List.Nodup

/-! # Paths in trees -/

namespace DesignLint.Tree

variable {α : Type}

/-! ## Following a path -/

def subtree? : Tree α → List Nat → Option (Tree α)
  | t, [] => some t
  | t, i :: steps => t.children[i]?.bind fun c => subtree? c steps

/-- The label at a path. No label is at the empty path, since that is the place of no tree. -/
def at? (ts : List (Tree α)) : List Nat → Option α
  | [] => none
  | i :: steps => (ts[i]?.bind fun t => subtree? t steps).map label

/-! ## All places in pre-order -/

mutual

/-- The labels of a tree in pre-order, each with the steps that lead to it. -/
def places : Tree α → List (List Nat × α)
  | node a ts => ([], a) :: placesFrom 0 ts

def placesFrom (i : Nat) : List (Tree α) → List (List Nat × α)
  | [] => []
  | t :: ts => (places t).map (fun e => (i :: e.1, e.2)) ++ placesFrom (i + 1) ts

end

def placesAll (ts : List (Tree α)) : List (List Nat × α) := placesFrom 0 ts

mutual

theorem labels_places (t : Tree α) : (places t).map (·.2) = preorder t := by
  cases t with
  | node a ts => simp [places, preorder, labels_placesFrom 0 ts]

theorem labels_placesFrom (i : Nat) (ts : List (Tree α)) :
    (placesFrom i ts).map (·.2) = preorderAll ts := by
  cases ts with
  | nil => simp [placesFrom, preorderAll]
  | cons t ts =>
    have ht := labels_places t
    have hts := labels_placesFrom (i + 1) ts
    simp only [placesFrom, preorderAll, List.map_append, List.map_map, hts, ← ht]
    rfl

end

theorem labels_placesAll (ts : List (Tree α)) : (placesAll ts).map (·.2) = preorderAll ts :=
  labels_placesFrom 0 ts

/-! ## Places are where paths lead -/

mutual

theorem mem_places_iff (t : Tree α) (steps : List Nat) (a : α) :
    (steps, a) ∈ places t ↔ (subtree? t steps).map label = some a := by
  cases t with
  | node b ts =>
    cases steps with
    | nil =>
      have hne : ([], a) ∉ placesFrom 0 ts := by
        rw [mem_placesFrom_iff]
        rintro ⟨_, _, h, _⟩
        cases h
      simp [places, subtree?, label, hne, eq_comm]
    | cons j rest => simp [places, subtree?, children, mem_placesFrom_iff 0 ts, and_assoc]

theorem mem_placesFrom_iff (i : Nat) (ts : List (Tree α)) (path : List Nat) (a : α) :
    (path, a) ∈ placesFrom i ts ↔
      ∃ j steps, path = (i + j) :: steps ∧
        (ts[j]?.bind fun t => subtree? t steps).map label = some a := by
  cases ts with
  | nil => simp [placesFrom]
  | cons t ts =>
    have ht := mem_places_iff t
    have hts := mem_placesFrom_iff (i + 1) ts path a
    simp only [placesFrom, List.mem_append, List.mem_map, Prod.mk.injEq, Prod.exists, ht, hts]
    constructor
    · rintro (⟨steps, b, h, rfl, rfl⟩ | ⟨j, steps, rfl, h⟩)
      · exact ⟨0, steps, by simp, by simpa using h⟩
      · exact ⟨j + 1, steps, by rw [Nat.add_right_comm, Nat.add_assoc], by simpa using h⟩
    · rintro ⟨j, steps, rfl, h⟩
      cases j with
      | zero => exact .inl ⟨steps, a, by simpa using h, by simp, rfl⟩
      | succ j =>
        exact .inr ⟨j, steps, by rw [Nat.add_right_comm, Nat.add_assoc], by simpa using h⟩

end

theorem mem_placesAll_iff (ts : List (Tree α)) (path : List Nat) (a : α) :
    (path, a) ∈ placesAll ts ↔ at? ts path = some a := by
  rw [placesAll, mem_placesFrom_iff]
  cases path with
  | nil => simp [at?]
  | cons i steps => simp [at?, and_assoc]

theorem ne_nil_of_mem_placesFrom {i : Nat} {ts : List (Tree α)} {e : List Nat × α}
    (h : e ∈ placesFrom i ts) : e.1 ≠ [] := by
  obtain ⟨path, a⟩ := e
  obtain ⟨_, _, rfl, _⟩ := (mem_placesFrom_iff i ts path a).mp h
  simp

/-! ## Paths are distinct -/

mutual

theorem nodup_paths_places (t : Tree α) : ((places t).map (·.1)).Nodup := by
  cases t with
  | node a ts =>
    rw [places, List.map_cons, List.nodup_cons]
    refine ⟨fun hnil => ?_, nodup_paths_placesFrom 0 ts⟩
    obtain ⟨e, he, hpath⟩ := List.mem_map.mp hnil
    exact ne_nil_of_mem_placesFrom he hpath

theorem nodup_paths_placesFrom (i : Nat) (ts : List (Tree α)) :
    ((placesFrom i ts).map (·.1)).Nodup := by
  cases ts with
  | nil => exact List.nodup_nil
  | cons t ts =>
    have hfirst : ((places t).map fun e => i :: e.1).Nodup := by
      have hpaths := (nodup_paths_places t).map (List.cons_injective (a := i))
      rwa [List.map_map] at hpaths
    rw [placesFrom, List.map_append, List.map_map, List.nodup_append]
    refine ⟨hfirst, nodup_paths_placesFrom (i + 1) ts, ?_⟩
    -- The paths of the other trees start with later places.
    rintro _ hp _ hq rfl
    obtain ⟨e, -, rfl⟩ := List.mem_map.mp hp
    obtain ⟨e', he', hpath⟩ := List.mem_map.mp hq
    obtain ⟨j, steps, hplace, -⟩ := (mem_placesFrom_iff (i + 1) ts e'.1 e'.2).mp he'
    rw [hplace] at hpath
    have hi : i + 1 + j = i := (List.cons.inj hpath).1
    omega

end

theorem nodup_paths_placesAll (ts : List (Tree α)) : ((placesAll ts).map (·.1)).Nodup :=
  nodup_paths_placesFrom 0 ts

theorem eq_of_mem_placesAll {ts : List (Tree α)} {e e' : List Nat × α} (he : e ∈ placesAll ts)
    (he' : e' ∈ placesAll ts) (hpath : e.1 = e'.1) : e = e' :=
  List.inj_on_of_nodup_map (nodup_paths_placesAll ts) he he' hpath

end DesignLint.Tree
