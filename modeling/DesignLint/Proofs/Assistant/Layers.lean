import DesignLint.Json.Value
import DesignLint.Proofs.Keyed
import Mathlib.Data.List.Induction

/-! # Layers of configurations -/

namespace DesignLint

/-- Every name and every key stands once, and every configuration is an object. -/
structure IsLayer (layer : Keyed Json) : Prop where
  names : (Keyed.keys layer).Nodup
  flat : ∀ e ∈ layer, ∃ fields, e.2 = .obj fields ∧ (Keyed.keys fields).Nodup

namespace IsLayer

variable {layer : Keyed Json}

theorem exists_of_cons {e : String × Json} (h : IsLayer (e :: layer)) :
    ∃ fields, e = (e.1, .obj fields) ∧ (Keyed.keys fields).Nodup ∧ e.1 ∉ Keyed.keys layer ∧
      IsLayer layer := by
  obtain ⟨hnew, hnames⟩ := List.nodup_cons.mp h.names
  obtain ⟨fields, hobj, hfields⟩ := h.flat e List.mem_cons_self
  exact ⟨fields, Prod.ext rfl hobj, hfields, hnew, hnames,
    fun d hd => h.flat d (List.mem_cons_of_mem e hd)⟩

theorem only (h : IsLayer layer) (p : String → Bool) : IsLayer (layer.only p) where
  names := by
    rw [Keyed.keys_only]
    exact h.names.filter p
  flat e he := h.flat e (List.mem_of_mem_filter he)

end IsLayer

namespace Layers

variable {layer : Keyed Json} {layers : List (Keyed Json)} {merged : Keyed (Keyed Json)}
  {name : String}

/-! ## Values in layers -/

def valueIn? (layer : Keyed Json) (name key : String) : Option Json :=
  (layer.get? name).bind (·.field? key)

def lastValue? (layers : List (Keyed Json)) (name key : String) : Option Json :=
  layers.reverse.findSome? (valueIn? · name key)

def valueOf? (merged : Keyed (Keyed Json)) (name key : String) : Option Json :=
  (merged.get? name).bind (·.get? key)

theorem lastValue?_concat (layers : List (Keyed Json)) (layer : Keyed Json) (name key : String) :
    lastValue? (layers ++ [layer]) name key =
      (valueIn? layer name key).or (lastValue? layers name key) := by
  rw [lastValue?, List.reverse_append, List.reverse_singleton, List.singleton_append,
    List.findSome?_cons, lastValue?]
  cases valueIn? layer name key <;> rfl

/-! ## Laying over -/

def cover (merged : Keyed (Keyed Json)) (name : String) (fields : Keyed Json) :
    Keyed (Keyed Json) :=
  merged.put name (((merged.get? name).getD []).merge fields)

/-- Configurations with a layer laid over them. -/
def overlay (merged : Keyed (Keyed Json)) (layer : Keyed Json) : Keyed (Keyed Json) :=
  layer.foldl (fun merged e => match e.2 with
    | .obj fields => cover merged e.1 fields
    | _ => merged) merged

theorem overlay_cons (merged : Keyed (Keyed Json)) (name : String) (fields rest : Keyed Json) :
    overlay merged ((name, .obj fields) :: rest) = overlay (cover merged name fields) rest := rfl

def overlayAll (layers : List (Keyed Json)) : Keyed (Keyed Json) := layers.foldl overlay []

theorem overlayAll_concat (layers : List (Keyed Json)) (layer : Keyed Json) :
    overlayAll (layers ++ [layer]) = overlay (overlayAll layers) layer := by
  rw [overlayAll, List.foldl_append]
  rfl

theorem valueOf?_cover {fields : Keyed Json} (hfields : (Keyed.keys fields).Nodup)
    (j key : String) : valueOf? (cover merged name fields) j key =
      if name = j then (fields.get? key).or (valueOf? merged name key)
      else valueOf? merged j key := by
  rw [valueOf?, cover, Keyed.get?_put]
  split
  · rw [Option.bind_some, Keyed.get?_merge_of_nodup _ hfields, valueOf?]
    cases merged.get? name <;> rfl
  · rfl

theorem valueOf?_overlay (h : IsLayer layer) (name key : String) :
    valueOf? (overlay merged layer) name key =
      (valueIn? layer name key).or (valueOf? merged name key) := by
  induction layer generalizing merged with
  | nil => rfl
  | cons e rest ih =>
    obtain ⟨fields, he, hfields, hnew, hrest⟩ := h.exists_of_cons
    rw [he, overlay_cons, ih hrest, valueOf?_cover hfields, valueIn?, valueIn?, Keyed.get?_cons]
    -- The rest has no entry of the same name, so what `e` puts stays.
    by_cases hname : e.1 = name
    · subst hname
      have hnone : Keyed.get? rest e.1 = none := Keyed.get?_eq_none_iff.mpr hnew
      simp [hnone, Json.field?]
    · simp [hname]

/-- The value for a key in layers laid over one another is the one of the last layer that has it. -/
theorem valueOf?_overlayAll (h : ∀ layer ∈ layers, IsLayer layer) (name key : String) :
    valueOf? (overlayAll layers) name key = lastValue? layers name key := by
  induction layers using List.reverseRecOn with
  | nil => rfl
  | append_singleton layers layer ih =>
    obtain ⟨hlayers, hlayer⟩ := List.forall_mem_append.mp h
    rw [overlayAll_concat, valueOf?_overlay (hlayer layer List.mem_cons_self), ih hlayers,
      lastValue?_concat]

/-! ## Names in layers -/

theorem keys_overlay {names : List String} (h : IsLayer layer)
    (hmerged : Keyed.keys merged = names.eraseDups) :
    Keyed.keys (overlay merged layer) = (names ++ Keyed.keys layer).eraseDups := by
  induction layer generalizing merged names with
  | nil => simpa [overlay, Keyed.keys] using hmerged
  | cons e rest ih =>
    obtain ⟨fields, he, -, -, hrest⟩ := h.exists_of_cons
    have hcover : Keyed.keys (cover merged e.1 fields) = (names ++ [e.1]).eraseDups :=
      Keyed.keys_put_of_eraseDups hmerged e.1 _
    rw [he, overlay_cons, ih hrest hcover, List.append_assoc]
    rfl

theorem keys_overlayAll (h : ∀ layer ∈ layers, IsLayer layer) :
    Keyed.keys (overlayAll layers) = (layers.flatMap Keyed.keys).eraseDups := by
  induction layers using List.reverseRecOn with
  | nil => rfl
  | append_singleton layers layer ih =>
    obtain ⟨hlayers, hlayer⟩ := List.forall_mem_append.mp h
    rw [overlayAll_concat, keys_overlay (hlayer layer List.mem_cons_self) (ih hlayers),
      List.flatMap_append, List.flatMap_singleton]

/-! ## Keys in layers -/

theorem nodup_keys_cover (h : ∀ e ∈ merged, (Keyed.keys e.2).Nodup) (name : String)
    (fields : Keyed Json) : ∀ e ∈ cover merged name fields, (Keyed.keys e.2).Nodup := by
  have hbefore : (Keyed.keys ((merged.get? name).getD [])).Nodup := by
    cases hget : merged.get? name with
    | none => exact List.nodup_nil
    | some config => exact h _ (Keyed.mem_of_get? hget)
  intro e he
  rcases Keyed.mem_put he with rfl | he
  · exact Keyed.nodup_keys_merge hbefore fields
  · exact h e he

theorem nodup_keys_overlay (h : IsLayer layer) (hmerged : ∀ e ∈ merged, (Keyed.keys e.2).Nodup) :
    ∀ e ∈ overlay merged layer, (Keyed.keys e.2).Nodup := by
  induction layer generalizing merged with
  | nil => exact hmerged
  | cons e rest ih =>
    obtain ⟨fields, he, -, -, hrest⟩ := h.exists_of_cons
    rw [he, overlay_cons]
    exact ih hrest (nodup_keys_cover hmerged e.1 fields)

theorem nodup_keys_overlayAll (h : ∀ layer ∈ layers, IsLayer layer) :
    ∀ e ∈ overlayAll layers, (Keyed.keys e.2).Nodup := by
  induction layers using List.reverseRecOn with
  | nil => simp [overlayAll]
  | append_singleton layers layer ih =>
    obtain ⟨hlayers, hlayer⟩ := List.forall_mem_append.mp h
    rw [overlayAll_concat]
    exact nodup_keys_overlay (hlayer layer List.mem_cons_self) (ih hlayers)

/-! ## Layers without some names -/

theorem lastValue?_only {p : String → Bool} (hname : p name = true) (layers : List (Keyed Json))
    (key : String) : lastValue? (layers.map (·.only p)) name key = lastValue? layers name key := by
  have hvalue : ∀ layer : Keyed Json,
      valueIn? (layer.only p) name key = valueIn? layer name key := by
    intro layer
    rw [valueIn?, Keyed.get?_only, if_pos hname, valueIn?]
  rw [lastValue?, ← List.map_reverse, List.findSome?_map, lastValue?]
  exact congrArg (fun f => List.findSome? f layers.reverse) (funext hvalue)

theorem flatMap_keys_only (p : String → Bool) (layers : List (Keyed Json)) :
    (layers.map (·.only p)).flatMap Keyed.keys = (layers.flatMap Keyed.keys).filter p := by
  rw [List.flatMap_map, List.filter_flatMap]
  exact congrArg (layers.flatMap ·) (funext fun layer => Keyed.keys_only layer p)

/-! ## Layers merged -/

/-- What configurations are that are merged from layers for the names that are known. -/
structure Merges (known : List String) (layers : List (Keyed Json))
    (merged : Keyed (Keyed Json)) : Prop where
  names : ∀ name, name ∈ Keyed.keys merged ↔
    name ∈ known ∧ ∃ layer ∈ layers, name ∈ Keyed.keys layer
  order : Keyed.keys merged = ((layers.flatMap Keyed.keys).filter known.contains).eraseDups
  values : ∀ name ∈ known, ∀ key, valueOf? merged name key = lastValue? layers name key
  distinct : ∀ e ∈ merged, (Keyed.keys e.2).Nodup

theorem merges_overlayAll (known : List String) (h : ∀ layer ∈ layers, IsLayer layer) :
    Merges known layers (overlayAll (layers.map (·.only known.contains))) := by
  have honly : ∀ layer ∈ layers.map (·.only known.contains), IsLayer layer := by
    intro layer hlayer
    obtain ⟨given, hgiven, rfl⟩ := List.mem_map.mp hlayer
    exact (h given hgiven).only _
  have horder := keys_overlayAll honly
  rw [flatMap_keys_only] at horder
  refine ⟨fun name => ?_, horder, fun name hname key => ?_, nodup_keys_overlayAll honly⟩
  · rw [horder, List.mem_eraseDups, List.mem_filter, List.mem_flatMap, List.contains_iff_mem,
      and_comm]
  · rw [valueOf?_overlayAll honly, lastValue?_only (List.contains_iff_mem.mpr hname)]

end Layers

end DesignLint
