import DesignLint.Proofs.Document.LayerCount
import DesignLint.Proofs.Document.Location
import Mathlib.Data.List.Sigma
import Mathlib.Data.Set.Card

/-! # Places of layers -/

namespace DesignLint

def Json.at? (v : Json) : List Segment → Option Json
  | [] => some v
  | s :: path => (v.step? s).bind fun w => at? w path

namespace LayerCount

variable {v w : Json} {s : Segment} {path : List Segment}

/-! ## Steps that the count takes -/

theorem inductionNext {P : Json → Prop} (h : ∀ v, (∀ w ∈ next v, P w) → P v) (v : Json) : P v := by
  induction hn : v.size using Nat.strongRecOn generalizing v with
  | ind n ih =>
    subst hn
    exact h v fun w hw => ih w.size (size_lt_of_mem_next hw) w rfl

def IsWay : Segment → Prop
  | .key k => k ∈ keys
  | .index _ => True

/-- What a value leads to, each with the step that leads there. -/
def ways : Json → List (Segment × Json)
  | .obj r => keys.filterMap fun k => (Keyed.get? r k).map (Segment.key k, ·)
  | .arr items => items.zipIdx.map fun e => (.index e.2, e.1)
  | _ => []

theorem map_snd_ways (v : Json) : (ways v).map (·.2) = next v := by
  cases v with
  | obj r =>
    rw [ways, next, List.map_filterMap]
    simp [Function.comp_def]
  | arr items =>
    rw [ways, next, List.map_map]
    exact List.zipIdx_map_fst 0 items
  | _ => rfl

theorem mem_next_of_mem_ways {e : Segment × Json} (h : e ∈ ways v) : e.2 ∈ next v := by
  rw [← map_snd_ways]
  exact List.mem_map_of_mem h

theorem mem_ways_iff : (s, w) ∈ ways v ↔ IsWay s ∧ v.step? s = some w := by
  cases v with
  | obj r => cases s <;> simp [ways, IsWay, Json.step?]
  | arr items => cases s <;> simp [ways, IsWay, Json.step?, List.mem_zipIdx_iff_getElem?]
  | _ => simp [ways, Json.step?]

theorem pairwise_ways (v : Json) : (ways v).Pairwise fun d e => d.1 ≠ e.1 := by
  cases v with
  | obj r =>
    have hkeys : keys.Pairwise (· ≠ ·) := by decide
    refine List.pairwise_filterMap.mpr (hkeys.imp ?_)
    rintro j k hne d hd e he hsame
    obtain ⟨_, -, rfl⟩ := Option.map_eq_some_iff.mp hd
    obtain ⟨_, -, rfl⟩ := Option.map_eq_some_iff.mp he
    exact hne (Segment.key.inj hsame)
  | arr items =>
    have hplaces := List.pairwise_map.mp (List.nodup_zipIdx_map_snd items)
    exact List.pairwise_map.mpr (hplaces.imp fun hne hsame => hne (Segment.index.inj hsame))
  | _ => exact .nil

/-! ## All places of layers -/

/-- The paths to the layers among a value and all that it leads to: all steps lead on to layers, and
what they lead to is an object with a class. -/
def layerPaths (v : Json) : Set (List Segment) :=
  {path | (∀ s ∈ path, IsWay s) ∧ ∃ r, v.at? path = some (.obj r) ∧ "_class" ∈ Keyed.keys r}

def places (v : Json) : List (List Segment) :=
  List.replicate (one v) [] ++
    (ways v).attach.flatMap fun e => (places e.1.2).map (e.1.1 :: ·)
termination_by v.size
decreasing_by exact size_lt_of_mem_next (mem_next_of_mem_ways e.2)

theorem places_eq (v : Json) : places v =
    List.replicate (one v) [] ++ (ways v).flatMap fun e => (places e.2).map (e.1 :: ·) := by
  have hattach := List.attach_map_val (l := ways v) (f := fun e => (places e.2).map (e.1 :: ·))
  rw [places, List.flatMap_def, hattach, ← List.flatMap_def]

theorem length_places (v : Json) : (places v).length = total v := by
  induction v using inductionNext with
  | h v ih =>
    rw [places_eq, total_eq, List.length_append, List.length_replicate, List.length_flatMap,
      ← map_snd_ways, List.map_map]
    refine congrArg (one v + List.sum ·) (List.map_congr_left fun e he => ?_)
    rw [List.length_map]
    exact ih e.2 (mem_next_of_mem_ways he)

theorem one_le_one (v : Json) : one v ≤ 1 := by
  cases v with
  | obj r =>
    rw [one, ofFields]
    split <;> simp
  | _ => exact Nat.zero_le 1

theorem one_ne_zero_iff : one v ≠ 0 ↔ ∃ r, v = .obj r ∧ "_class" ∈ Keyed.keys r := by
  cases v with
  | obj r =>
    rw [one, ofFields, Keyed.has]
    split <;> simp_all [Keyed.mem_keys_iff]
  | _ => simp [one]

theorem nodup_places (v : Json) : (places v).Nodup := by
  induction v using inductionNext with
  | h v ih =>
    rw [places_eq, List.nodup_append, List.nodup_flatMap]
    refine ⟨List.nodup_replicate.mpr (one_le_one v), ⟨fun e he => ?_, ?_⟩, ?_⟩
    · have hbehind := ih e.2 (mem_next_of_mem_ways he)
      exact hbehind.map List.cons_injective
    · refine (pairwise_ways v).imp fun hne path hd he => ?_
      obtain ⟨_, -, rfl⟩ := List.mem_map.mp hd
      obtain ⟨_, -, hsame⟩ := List.mem_map.mp he
      exact hne (List.cons.inj hsame).1.symm
    · -- The value itself is at the empty path, all others are behind a step.
      rintro _ hself path hpath rfl
      obtain ⟨e, -, he⟩ := List.mem_flatMap.mp hpath
      obtain ⟨_, -, rfl⟩ := List.mem_map.mp he
      cases List.eq_of_mem_replicate hself

theorem mem_places_iff : path ∈ places v ↔ path ∈ layerPaths v := by
  induction path generalizing v with
  | nil =>
    rw [places_eq]
    simp [layerPaths, Json.at?, one_ne_zero_iff]
  | cons s path ih =>
    have hbehind : s :: path ∈ places v ↔ ∃ w, (s, w) ∈ ways v ∧ path ∈ places w := by
      rw [places_eq]
      simp [List.mem_replicate]
    rw [hbehind]
    simp only [mem_ways_iff, ih, layerPaths, Set.mem_ofPred_eq, Json.at?, List.forall_mem_cons,
      Option.bind_eq_some_iff]
    constructor
    · rintro ⟨w, ⟨hs, hw⟩, hpath, r, hr, hclass⟩
      exact ⟨⟨hs, hpath⟩, r, ⟨w, hw, hr⟩, hclass⟩
    · rintro ⟨⟨hs, hpath⟩, r, ⟨w, hw, hr⟩, hclass⟩
      exact ⟨w, ⟨hs, hw⟩, hpath, r, hr, hclass⟩

/-- The count is the number of the places of layers. -/
theorem encard_layerPaths (v : Json) : (layerPaths v).encard = count v := by
  have hset : layerPaths v = ((places v).toFinset : Set (List Segment)) := by
    ext path
    simp [mem_places_iff]
  rw [hset, Set.encard_coe_eq_coe_finsetCard, List.toFinset_card_of_nodup (nodup_places v),
    length_places, count_eq_total]

end LayerCount

end DesignLint
