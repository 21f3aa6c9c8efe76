import DesignLint.Proofs.Document.LayerPlaces
import DesignLint.Proofs.Json.Distinct

/-! # Documents with the same count -/

namespace DesignLint

namespace Keyed

variable {α β : Type} {m n : Keyed α} {k : String}

theorem get?_of_perm (hkeys : (keys m).Nodup) (h : m.Perm n) (k : String) :
    get? n k = get? m k := by
  induction h with
  | nil => rfl
  | cons e _ ih => rw [get?_cons, get?_cons, ih (List.nodup_cons.mp hkeys).2]
  | swap d e m =>
    have hne : e.1 ≠ d.1 := (List.pairwise_cons.mp hkeys).1 d.1 List.mem_cons_self
    rw [get?_cons, get?_cons, get?_cons, get?_cons]
    by_cases hd : d.1 = k
    · have he : e.1 ≠ k := fun he => hne (he.trans hd.symm)
      simp [hd, he]
    · simp [hd]
  | trans hmn _ ihm ihn => rw [ihn ((hmn.map _).nodup_iff.mp hkeys), ihm hkeys]

theorem map_get?_replaced {f : α → β} {v w : α} (h : f v = f w) (before after : Keyed α)
    (j k : String) :
    (get? (before ++ (j, w) :: after) k).map f = (get? (before ++ (j, v) :: after) k).map f := by
  rw [get?_append, get?_append, get?_cons, get?_cons]
  cases get? before k with
  | some _ => rfl
  | none => by_cases hj : j = k <;> simp [hj, h]

end Keyed

namespace LayerCount

variable {v w : Json} {r s : Keyed Json}

/-! ## Layers of objects -/

/-- What a function makes of the value under a key, or zero. -/
def under (f : Json → Nat) (r : Keyed Json) (k : String) : Nat := ((r.get? k).map f).getD 0

theorem total_obj (r : Keyed Json) :
    total (.obj r) = ofFields r + (keys.map (under total r)).sum := by
  have hsum : ∀ ks : List String,
      ((ks.filterMap r.get?).map total).sum = (ks.map (under total r)).sum := by
    intro ks
    induction ks with
    | nil => rfl
    | cons k ks ih =>
      rw [List.map_cons, List.sum_cons, ← ih, List.filterMap_cons, under]
      cases r.get? k <;> simp
  rw [total_eq, next, hsum]
  rfl

theorem total_obj_congr
    (h : ∀ k ∈ "_class" :: keys, (s.get? k).map total = (r.get? k).map total) :
    total (.obj s) = total (.obj r) := by
  obtain ⟨hclass, hways⟩ := List.forall_mem_cons.mp h
  have hone : ofFields s = ofFields r := by
    have hsome := congrArg Option.isSome hclass
    rw [Option.isSome_map, Option.isSome_map] at hsome
    rw [ofFields, ofFields, Keyed.has, Keyed.has, hsome]
  rw [total_obj, total_obj, hone]
  refine congrArg (ofFields r + List.sum ·) (List.map_congr_left fun k hk => ?_)
  rw [under, under, hways k hk]

/-! ## Edits -/

/-- One change of a value that leaves its layers alone. -/
inductive Edit : Json → Json → Prop
  | items {l m : List Json} (h : l.Perm m) : Edit (.arr l) (.arr m)
  | members {r s : Keyed Json} (hkeys : (Keyed.keys r).Nodup) (h : r.Perm s) :
    Edit (.obj r) (.obj s)
  | put (r : Keyed Json) {k : String} (hk : k ∉ "_class" :: keys) (v : Json) :
    Edit (.obj r) (.obj (r.put k v))
  | item (before after : List Json) {v w : Json} (h : Edit v w) :
    Edit (.arr (before ++ v :: after)) (.arr (before ++ w :: after))
  | member (before after : Keyed Json) (k : String) {v w : Json} (h : Edit v w) :
    Edit (.obj (before ++ (k, v) :: after)) (.obj (before ++ (k, w) :: after))

theorem total_eq_of_edit (h : Edit v w) : total w = total v := by
  induction h with
  | items h => rw [total_arr, total_arr, (h.map total).sum_eq]
  | members hkeys h =>
    exact total_obj_congr fun k _ => by rw [Keyed.get?_of_perm hkeys h]
  | put r hk v =>
    refine total_obj_congr fun k hmem => ?_
    rw [Keyed.get?_put_of_ne]
    rintro rfl
    exact hk hmem
  | item before after h ih => simp [total_arr, ih]
  | member before after k h ih =>
    exact total_obj_congr fun _ _ => Keyed.map_get?_replaced ih.symm before after k _

theorem count_eq_of_edits (h : Relation.EqvGen Edit v w) : count w = count v := by
  induction h with
  | rel v w h => rw [count_eq_total, count_eq_total, total_eq_of_edit h]
  | refl v => rfl
  | symm v w _ ih => exact ih.symm
  | trans u v w _ _ ihu ihw => exact ihw.trans ihu

/-! ## The count by recursion -/

theorem recursiveAll_eq (items : List Json) : recursiveAll items = (items.map recursive).sum := by
  induction items with
  | nil => rfl
  | cons v rest ih => rw [recursiveAll, ih, List.map_cons, List.sum_cons]

theorem recursiveFields_eq (r : Keyed Json) :
    recursiveFields r = (r.map fun e => if e.1 ∈ keys then recursive e.2 else 0).sum := by
  induction r with
  | nil => rfl
  | cons e rest ih => simp [recursiveFields, ih]

theorem sum_under {ks : List String} (hks : ks.Nodup) (hkeys : (Keyed.keys r).Nodup)
    (f : Json → Nat) :
    (ks.map (under f r)).sum = (r.map fun e => if e.1 ∈ ks then f e.2 else 0).sum := by
  induction r with
  | nil =>
    have hnone : under f [] = fun _ => 0 := rfl
    simp [hnone]
  | cons e r ih =>
    obtain ⟨hnew, hrest⟩ := List.nodup_cons.mp hkeys
    have hsplit : ∀ k, under f (e :: r) k = (if k = e.1 then f e.2 else 0) + under f r k := by
      intro k
      rw [under, under, Keyed.get?_cons]
      by_cases hk : k = e.1
      · subst hk
        have hnone : Keyed.get? r e.1 = none := Keyed.get?_eq_none_iff.mpr hnew
        simp [hnone]
      · simp [hk, Ne.symm hk]
    have hown : (ks.map fun k => if k = e.1 then f e.2 else 0).sum =
        if e.1 ∈ ks then f e.2 else 0 := by
      rw [List.sum_map_eq_nsmul_single e.1 _ (fun k hk _ => if_neg hk), if_pos rfl]
      split
      · rename_i hmem
        rw [List.count_eq_one_of_mem hks hmem, one_nsmul]
      · rename_i hmem
        rw [List.count_eq_zero_of_not_mem hmem, zero_nsmul]
    rw [List.map_congr_left fun k _ => hsplit k, List.sum_map_add, hown, ih hrest, List.map_cons,
      List.sum_cons]

theorem recursive_eq_total (h : v.HasDistinctKeys) : recursive v = total v := by
  induction h with
  | arr _ ih => rw [recursive, recursiveAll_eq, total_arr, List.map_congr_left ih]
  | @obj r hkeys _ ih =>
    have hmembers : (r.map fun e => if e.1 ∈ keys then recursive e.2 else 0) =
        r.map fun e => if e.1 ∈ keys then total e.2 else 0 :=
      List.map_congr_left fun e he => by rw [ih e he]
    rw [recursive, recursiveFields_eq, hmembers, ← sum_under (by decide) hkeys, total_obj]
  | _ => simp [recursive, total_eq, one, next]

/-! ## The law -/

/-- Counting layers ends. The count is the number of places of layers, and no edit that leaves the
layers alone changes it. -/
theorem counts_places_of_layers (v : Json) :
    (∀ m, Counts [v] 0 m ↔ m = count v) ∧
    (layerPaths v).encard = count v ∧
    (v.HasDistinctKeys → recursive v = count v) ∧
    ∀ w, Relation.EqvGen Edit v w → count w = count v :=
  ⟨fun _ => counts_iff, encard_layerPaths v,
    fun h => (recursive_eq_total h).trans (count_eq_total v).symm, fun _ => count_eq_of_edits⟩

def stackedPages : Json :=
  .arr [.arr [.obj [("_class", .str "page"), ("layers", .obj [("_class", .str "text")])]]]

def stackedDocument : Json :=
  .obj [("note", .obj [("_class", .str "note")]), ("pages", stackedPages)]

theorem hasDistinctKeys_stackedDocument : stackedDocument.HasDistinctKeys := by
  have hclass : ∀ s : String, (Json.obj [("_class", .str s)]).HasDistinctKeys := fun s =>
    .obj (List.nodup_singleton _) (by simpa using .str s)
  have hpage : (Json.obj [("_class", .str "page"),
      ("layers", .obj [("_class", .str "text")])]).HasDistinctKeys :=
    .obj (by decide) (by simpa using ⟨.str "page", hclass "text"⟩)
  have hpages : stackedPages.HasDistinctKeys := .arr (by simpa using .arr (by simpa using hpage))
  exact .obj (by decide) (by simpa using ⟨hclass "note", hpages⟩)

theorem counts_places_of_layers_stacked :
    recursive stackedDocument = 2 ∧
    count (.obj [("pages", stackedPages), ("note", .obj [("_class", .str "note")]),
      ("version", .whole 1)]) = 2 := by
  obtain ⟨-, -, hrecursive, hedits⟩ := counts_places_of_layers stackedDocument
  have hcount : count stackedDocument = 2 := by decide
  refine ⟨(hrecursive hasDistinctKeys_stackedDocument).trans hcount, (hedits _ ?_).trans hcount⟩
  have hmoved : Edit stackedDocument
      (.obj [("pages", stackedPages), ("note", .obj [("_class", .str "note")])]) :=
    .members (by decide) (List.Perm.swap _ _ _)
  have hother : "version" ∉ "_class" :: keys := by decide
  exact .trans _ _ _ (.rel _ _ hmoved) (.rel _ _ (.put _ hother (.whole 1)))

end LayerCount

end DesignLint
