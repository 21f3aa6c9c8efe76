import DesignLint.Document.LayerCount
import DesignLint.Document.Reading
import DesignLint.Index.Kind

/-! # Paths in raw documents -/

namespace DesignLint.Json

/-! ## Following a path -/

def itemsUnder (key : String) (v : Json) : List Json :=
  match v.field? key with
  | some (.arr items) => items
  | _ => []

def layerBelow? (v : Json) : List Nat → Option Json
  | [] => some v
  | i :: steps => (v.itemsUnder "layers")[i]?.bind fun w => layerBelow? w steps

/-- The value at a path of a document. No value is at the empty path, since that is the place of no
page. -/
def layerAt? (v : Json) : List Nat → Option Json
  | [] => none
  | i :: steps => (v.itemsUnder "pages")[i]?.bind fun w => layerBelow? w steps

/-! ## Sizes -/

theorem size_le_sizeAll {v : Json} {items : List Json} (h : v ∈ items) : v.size ≤ sizeAll items := by
  induction items with
  | nil => cases h
  | cons w rest ih =>
    rw [sizeAll]
    rcases List.mem_cons.mp h with rfl | h
    · exact Nat.le_add_right _ _
    · exact Nat.le_trans (ih h) (Nat.le_add_left _ _)

theorem size_le_sizeFields {r : Keyed Json} {k : String} {v : Json} (h : r.get? k = some v) :
    v.size ≤ sizeFields r := by
  induction r with
  | nil => cases h
  | cons e rest ih =>
    rw [Keyed.get?_cons] at h
    rw [sizeFields]
    split at h
    · cases h
      exact Nat.le_add_right _ _
    · exact Nat.le_trans (ih h) (Nat.le_add_left _ _)

theorem size_lt_of_mem_itemsUnder {key : String} {v w : Json} (h : w ∈ v.itemsUnder key) :
    w.size < v.size := by
  cases v with
  | obj r =>
    unfold itemsUnder field? at h
    split at h
    · rename_i items hget
      have hitems := size_le_sizeFields hget
      simp only [size] at hitems ⊢
      have hw := size_le_sizeAll h
      omega
    · cases h
  | _ => cases h

theorem inductionBelow {P : Json → Prop} (h : ∀ v, (∀ w ∈ v.itemsUnder "layers", P w) → P v)
    (v : Json) : P v := by
  induction hn : v.size using Nat.strongRecOn generalizing v with
  | ind n ih =>
    subst hn
    exact h v fun w hw => ih w.size (size_lt_of_mem_itemsUnder hw) w rfl

/-! ## Groups -/

def className? (v : Json) : Option String :=
  match v with
  | obj r =>
    match Keyed.first? r Layer.classNames with
    | some (_, str s) => some s
    | _ => none
  | _ => none

def isGroup (v : Json) : Bool := v.className?.any Kind.groupClasses.contains

/-- Whether all objects that a path passes below its page are groups. -/
def PassesGroups (v : Json) (path : List Nat) : Prop :=
  ∀ page steps rest, path = page :: (steps ++ rest) → steps ≠ [] → rest ≠ [] →
    ∃ w, v.layerAt? (page :: steps) = some w ∧ w.isGroup = true

/-! ## How far reading follows a path -/

/-- The value below the steps of a path, as long as layers are read: those of `v` if `holds`, and
below it those of groups. -/
def readBelow? (holds : Bool) (v : Json) : List Nat → Option Json
  | [] => some v
  | i :: steps =>
    if holds then (v.itemsUnder "layers")[i]?.bind fun w => readBelow? w.isGroup w steps else none

/-- The value at a path of a document, as long as layers are read. -/
def readAt? (v : Json) : List Nat → Option Json
  | [] => none
  | i :: steps => (v.itemsUnder "pages")[i]?.bind fun w => readBelow? true w steps

theorem forall_passed_cons_iff {P : List Nat → Prop} {i : Nat} {steps : List Nat} :
    (∀ before after, i :: steps = before ++ after → before ≠ [] → after ≠ [] → P before) ↔
      (steps ≠ [] → P [i]) ∧
        ∀ before after, steps = before ++ after → before ≠ [] → after ≠ [] → P (i :: before) := by
  constructor
  · intro h
    refine ⟨h [i] steps rfl (List.cons_ne_nil _ _), fun before after hsplit _ hafter => ?_⟩
    exact h (i :: before) after (by rw [hsplit, List.cons_append]) (List.cons_ne_nil _ _) hafter
  · rintro ⟨hfirst, hrest⟩ before after hsplit hbefore hafter
    obtain ⟨rfl, _⟩ | ⟨later, rfl, rfl⟩ := List.cons_eq_append_iff.mp hsplit
    · exact absurd rfl hbefore
    · by_cases hlater : later = []
      · subst hlater
        exact hfirst hafter
      · exact hrest later after rfl hlater hafter

theorem readBelow?_eq_some_iff {holds : Bool} {v w : Json} {steps : List Nat} :
    readBelow? holds v steps = some w ↔
      layerBelow? v steps = some w ∧ (steps ≠ [] → holds = true) ∧
        ∀ before after, steps = before ++ after → before ≠ [] → after ≠ [] →
          ∃ u, layerBelow? v before = some u ∧ u.isGroup = true := by
  induction steps generalizing holds v with
  | nil => simp +contextual [readBelow?, layerBelow?]
  | cons i steps ih =>
    rw [forall_passed_cons_iff]
    cases holds with
    | false => simp [readBelow?]
    | true =>
      cases hitem : (v.itemsUnder "layers")[i]? with
      | none => simp [readBelow?, layerBelow?, hitem]
      | some c => simp [readBelow?, layerBelow?, hitem, ih]

/-- Reading gets to a value exactly when the path to it passes groups only. -/
theorem readAt?_eq_some_iff {v w : Json} {path : List Nat} :
    readAt? v path = some w ↔ layerAt? v path = some w ∧ PassesGroups v path := by
  cases path with
  | nil => simp [readAt?, layerAt?]
  | cons i steps =>
    cases hpage : (v.itemsUnder "pages")[i]? with
    | none => simp [readAt?, layerAt?, hpage]
    | some page =>
      simp only [readAt?, layerAt?, hpage, Option.bind_some, readBelow?_eq_some_iff, implies_true,
        true_and, and_congr_right_iff, PassesGroups, List.cons.injEq]
      intro _
      constructor
      · rintro h _ before after ⟨rfl, hsplit⟩ hbefore hafter
        simpa [hpage] using h before after hsplit hbefore hafter
      · intro h before after hsplit hbefore hafter
        simpa [hpage] using h i before after ⟨rfl, hsplit⟩ hbefore hafter

end DesignLint.Json
