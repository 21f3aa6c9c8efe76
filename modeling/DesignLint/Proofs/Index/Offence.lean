import DesignLint.Index.Basic
import DesignLint.Proofs.Index.Walk
import Mathlib.Data.List.Induction

/-! # What is wrong with a node -/

namespace DesignLint

namespace NodeView

/-! ## Complete nodes -/

def HasClass (v : NodeView) : Prop := ∃ s, s ≠ "" ∧ v.cls = .str s

def HasId (v : NodeView) : Prop := ∃ s, s ≠ "" ∧ v.id = .str s

def HasValidFrame (v : NodeView) : Prop :=
  ∃ width height : Number, v.frame = some (some (.num width), some (.num height)) ∧
    width.isNegative = false ∧ height.isNegative = false

structure IsComplete (v : NodeView) : Prop where
  cls : v.HasClass
  id : v.HasId
  frame : v.HasValidFrame

/-- The class and the id are texts, if they are there at all, and so are the sides of the frame
numbers. -/
structure IsPlain (v : NodeView) : Prop where
  cls : v.cls = .null ∨ ∃ s, v.cls = .str s
  id : v.id = .null ∨ ∃ s, v.id = .str s
  frame : v.frame = none ∨
    ∃ width height : Number, v.frame = some (some (.num width), some (.num height))

theorem isGiven_text_iff (s : String) : (Json.str s).isGiven = true ↔ s ≠ "" := by
  simp [Json.isGiven]

theorem isGiven_cls_of_hasClass {v : NodeView} (h : v.HasClass) : v.cls.isGiven = true := by
  obtain ⟨s, hs, hv⟩ := h
  rw [hv, isGiven_text_iff]
  exact hs

theorem isGiven_id_of_hasId {v : NodeView} (h : v.HasId) : v.id.isGiven = true := by
  obtain ⟨s, hs, hv⟩ := h
  rw [hv, isGiven_text_iff]
  exact hs

theorem hasClass_iff {v : NodeView} (h : v.IsPlain) : v.HasClass ↔ v.cls.isGiven = true := by
  refine ⟨isGiven_cls_of_hasClass, fun hgiven => ?_⟩
  rcases h.cls with hc | ⟨s, hc⟩
  · rw [hc] at hgiven
    cases hgiven
  · rw [hc, isGiven_text_iff] at hgiven
    exact ⟨s, hgiven, hc⟩

theorem hasId_iff {v : NodeView} (h : v.IsPlain) : v.HasId ↔ v.id.isGiven = true := by
  refine ⟨isGiven_id_of_hasId, fun hgiven => ?_⟩
  rcases h.id with hc | ⟨s, hc⟩
  · rw [hc] at hgiven
    cases hgiven
  · rw [hc, isGiven_text_iff] at hgiven
    exact ⟨s, hgiven, hc⟩

theorem hasFrame_numbers {v : NodeView} {width height : Number}
    (h : v.frame = some (some (.num width), some (.num height))) :
    v.hasFrame = .ok (!width.isNegative && !height.isNegative) := by
  cases hw : width.isNegative <;>
    simp [hasFrame, h, isNegative, Json.number?, hw, bind, Except.bind, pure, Except.pure]

theorem hasFrame_of_valid {v : NodeView} (h : v.HasValidFrame) : v.hasFrame = .ok true := by
  obtain ⟨width, height, hf, hw, hh⟩ := h
  simp [hasFrame_numbers hf, hw, hh]

theorem hasFrame_of_invalid {v : NodeView} (h : v.IsPlain) (hframe : ¬ v.HasValidFrame) :
    v.hasFrame = .ok false := by
  rcases h.frame with hf | ⟨width, height, hf⟩
  · rw [hasFrame, hf]
  · rw [hasFrame_numbers hf]
    cases hw : width.isNegative with
    | true => rfl
    | false =>
      cases hh : height.isNegative with
      | true => rfl
      | false => exact absurd ⟨width, height, hf, hw, hh⟩ hframe

theorem fault?_complete {v : NodeView} (h : v.IsComplete) (pointer : String) :
    v.fault? pointer = none := by
  simp [fault?, isGiven_cls_of_hasClass h.cls, isGiven_id_of_hasId h.id, hasFrame_of_valid h.frame]

end NodeView

theorem keyFault?_cls {v : NodeView} (h : v.IsComplete) : keyFault? v.cls = none := by
  obtain ⟨s, _, hs⟩ := h.cls
  rw [hs]
  rfl

theorem keyFault?_id {v : NodeView} (h : v.IsComplete) : keyFault? v.id = none := by
  obtain ⟨s, _, hs⟩ := h.id
  rw [hs]
  rfl

/-! ## Nodes together -/

variable {α : Type} [Viewable α]

structure Indexable (l : List α) : Prop where
  complete : ∀ a ∈ l, (view a).IsComplete
  distinct : l.Pairwise fun a b => (view a).id ≠ (view b).id

theorem indexable_nil : Indexable ([] : List α) := ⟨by simp, .nil⟩

theorem indexable_append_iff (l m : List α) :
    Indexable (l ++ m) ↔
      Indexable l ∧ Indexable m ∧ ∀ a ∈ l, ∀ b ∈ m, (view a).id ≠ (view b).id := by
  constructor
  · rintro ⟨hc, hd⟩
    rw [List.pairwise_append] at hd
    exact ⟨⟨fun a ha => hc a (List.mem_append_left _ ha), hd.1⟩,
      ⟨fun a ha => hc a (List.mem_append_right _ ha), hd.2.1⟩, hd.2.2⟩
  · rintro ⟨hl, hm, hne⟩
    refine ⟨fun a ha => ?_, List.pairwise_append.mpr ⟨hl.distinct, hm.distinct, hne⟩⟩
    rcases List.mem_append.mp ha with ha | ha
    · exact hl.complete a ha
    · exact hm.complete a ha

theorem indexable_singleton_iff (a : α) : Indexable [a] ↔ (view a).IsComplete :=
  ⟨fun h => h.complete a (List.mem_singleton_self a),
    fun h => ⟨by simpa using h, List.pairwise_singleton _ _⟩⟩

theorem isSameKey_iff {v w : NodeView} (hv : v.HasId) (hw : w.HasId) :
    v.id.isSameKey w.id = true ↔ v.id = w.id := by
  obtain ⟨s, _, hs⟩ := hv
  obtain ⟨t, _, ht⟩ := hw
  simp [hs, ht, Json.isSameKey]

theorem pointerIn?_of_mem {l : List (Visit α)} (h : Indexable (l.map (·.node))) {v : Visit α}
    (hv : v ∈ l) : pointerIn? l (view v.node).id = some v.pointer := by
  induction l with
  | nil => cases hv
  | cons u rest ih =>
    have hsplit : Indexable [u.node] ∧ Indexable (rest.map (·.node)) ∧ _ :=
      (indexable_append_iff [u.node] (rest.map (·.node))).mp (by simpa using h)
    have hu : (view u.node).HasId := ((indexable_singleton_iff _).mp hsplit.1).id
    have hid : (view v.node).HasId := (h.complete v.node (List.mem_map_of_mem hv)).id
    rcases List.mem_cons.mp hv with rfl | hrest
    · simp [pointerIn?, (isSameKey_iff hid hid).mpr rfl]
    · have hne : (view u.node).id.isSameKey (view v.node).id = false := by
        rw [Bool.eq_false_iff, ne_eq, isSameKey_iff hu hid]
        exact hsplit.2.2 _ (List.mem_singleton_self _) _ (List.mem_map_of_mem hrest)
      have hnext := ih hsplit.2.1 hrest
      simpa [pointerIn?, hne] using hnext

theorem visitFault?_eq_none {seen : List (Visit α)} {a : α} (pointer : String)
    (ha : (view a).IsComplete) (hseen : ∀ v ∈ seen, (view v.node).IsComplete)
    (hnew : ∀ v ∈ seen, (view v.node).id ≠ (view a).id) : visitFault? seen a pointer = none := by
  have hdup : duplicate? seen (view a).id pointer = none := by
    simp only [duplicate?, pointerIn?, Option.map_eq_none_iff, List.find?_eq_none]
    intro v hv
    rw [isSameKey_iff (hseen v hv).id ha.id]
    exact hnew v hv
  simp [visitFault?, NodeView.fault?_complete ha, keyFault?_id ha, hdup, keyFault?_cls ha]

theorem exists_duplicate {seen : List (Visit α)} {a : α} (pointer : String)
    (ha : (view a).IsComplete) (hseen : ∀ v ∈ seen, (view v.node).IsComplete)
    (hold : ∃ v ∈ seen, (view v.node).id = (view a).id) :
    ∃ v ∈ seen, (view v.node).id = (view a).id ∧
      duplicate? seen (view a).id pointer =
        some (.document (.duplicateId (view a).id.display v.pointer pointer)) := by
  obtain ⟨u, hu, hsame⟩ := hold
  have hfound : (seen.find? fun v => (view v.node).id.isSameKey (view a).id).isSome := by
    rw [List.find?_isSome]
    exact ⟨u, hu, (isSameKey_iff (hseen u hu).id ha.id).mpr hsame⟩
  obtain ⟨v, hv⟩ := Option.isSome_iff_exists.mp hfound
  have hmem := List.mem_of_find?_eq_some hv
  have hkey := List.find?_some hv
  rw [isSameKey_iff (hseen v hmem).id ha.id] at hkey
  exact ⟨v, hmem, hkey, by simp [duplicate?, pointerIn?, hv]⟩

/-! ## The first bad node -/

/-- What is wrong with a node at a path when the nodes before it can be indexed. -/
inductive Offence (before : List (List Nat × α)) (path : List Nat) (v : NodeView) :
    DocumentFault → Prop
  | noClass (hcls : ¬ v.HasClass) : Offence before path v (.noClass (pointerTo path))
  | noId (hcls : v.HasClass) (hid : ¬ v.HasId) : Offence before path v (.noId (pointerTo path))
  | noFrame (hcls : v.HasClass) (hid : v.HasId) (hframe : ¬ v.HasValidFrame) :
    Offence before path v (.noFrame (pointerTo path))
  | duplicate (hv : v.IsComplete) (earlier : List Nat × α) (hmem : earlier ∈ before)
    (hsame : (view earlier.2).id = v.id) :
    Offence before path v (.duplicateId v.id.display (pointerTo earlier.1) (pointerTo path))

theorem exists_offence {before : List (List Nat × α)} {path : List Nat} {a : α}
    (hplain : (view a).IsPlain) (hbefore : Indexable (before.map (·.2)))
    (hbad : ¬ Indexable (before.map (·.2) ++ [a])) :
    ∃ f, Offence before path (view a) f ∧
      visitFault? (before.map (visitAt pointerTo)).reverse a (pointerTo path) =
        some (.document f) := by
  by_cases hcls : (view a).HasClass
  case neg =>
    have hnot : (view a).cls.isGiven = false := by
      rwa [NodeView.hasClass_iff hplain, Bool.not_eq_true] at hcls
    exact ⟨_, .noClass hcls, by simp [visitFault?, NodeView.fault?, hnot]⟩
  have hc := NodeView.isGiven_cls_of_hasClass hcls
  by_cases hid : (view a).HasId
  case neg =>
    have hnot : (view a).id.isGiven = false := by
      rwa [NodeView.hasId_iff hplain, Bool.not_eq_true] at hid
    exact ⟨_, .noId hcls hid, by simp [visitFault?, NodeView.fault?, hc, hnot]⟩
  have hi := NodeView.isGiven_id_of_hasId hid
  by_cases hframe : (view a).HasValidFrame
  case neg =>
    have hnot := NodeView.hasFrame_of_invalid hplain hframe
    exact ⟨_, .noFrame hcls hid hframe, by simp [visitFault?, NodeView.fault?, hc, hi, hnot]⟩
  -- The node is complete, so what breaks the list is an id that stands in it already.
  have hcomplete : (view a).IsComplete := ⟨hcls, hid, hframe⟩
  have hseen : ∀ v ∈ (before.map (visitAt pointerTo)).reverse, (view v.node).IsComplete := by
    intro v hv
    obtain ⟨e, he, rfl⟩ := List.mem_map.mp (List.mem_reverse.mp hv)
    exact hbefore.complete e.2 (List.mem_map_of_mem he)
  have hold : ∃ v ∈ (before.map (visitAt pointerTo)).reverse, (view v.node).id = (view a).id := by
    by_contra hnone
    apply hbad
    rw [indexable_append_iff, indexable_singleton_iff]
    refine ⟨hbefore, hcomplete, ?_⟩
    intro b hb c hc heq
    obtain ⟨e, he, rfl⟩ := List.mem_map.mp hb
    rw [List.mem_singleton.mp hc] at heq
    exact hnone ⟨visitAt pointerTo e, List.mem_reverse.mpr (List.mem_map_of_mem he), heq⟩
  obtain ⟨v, hv, hsame, hdup⟩ := exists_duplicate (pointerTo path) hcomplete hseen hold
  obtain ⟨e, he, rfl⟩ := List.mem_map.mp (List.mem_reverse.mp hv)
  refine ⟨_, .duplicate hcomplete e he hsame, ?_⟩
  simp [visitFault?, NodeView.fault?_complete hcomplete, keyFault?_id hcomplete, hdup, visitAt]

end DesignLint
