import DesignLint.Proofs.Document.Reading

/-! # Unusable classes -/

namespace DesignLint

def Json.unusableClass? (v : Json) : Option String :=
  match v with
  | .obj r =>
    match Keyed.first? r Layer.classNames with
    | some (_, c) => if c.isKey then none else some c.typeName
    | none => none
  | _ => none

namespace Reading

variable {α β : Type}

/-- The kind of the unusable class, if that is why nothing was read. -/
def unusable? (a : Reading α) : Option String :=
  match a with
  | .error (.unusableClass kind) => some kind
  | _ => none

@[simp] theorem unusable?_ok (x : α) : unusable? (.ok x) = none := rfl

@[simp] theorem unusable?_both (a : Reading α) (b : Reading β) :
    (both a b).unusable? = a.unusable?.or b.unusable? := by
  rcases a with (_ | _) | _ <;> rcases b with (_ | _) | _ <;> rfl

@[simp] theorem unusable?_map (a : Reading α) (f : α → β) :
    unusable? (a.map f) = a.unusable? := by
  rcases a with (_ | _) | _ <;> rfl

@[simp] theorem unusable?_within (s : Segment) (a : Reading α) :
    (within s a).unusable? = a.unusable? := by
  rcases a with (_ | _) | _ <;> rfl

@[simp] theorem unusable?_ofChecked (r : Checked α) : (ofChecked r).unusable? = none := by
  cases r <;> rfl

end Reading

namespace Layer

variable {f : Form} {v w : Json} {kind : String}

/-! ## Nodes -/

theorem formOf_ok_or_unusable (v : Json) :
    (∃ f, formOf v = .ok f ∧ v.unusableClass? = none) ∨
      ∃ kind, formOf v = .error (.unusableClass kind) ∧ v.unusableClass? = some kind ∧
        v.isGroup = false := by
  cases v with
  | obj r =>
    cases hfirst : Keyed.first? r classNames with
    | none => simp [formOf, Json.unusableClass?, hfirst]
    | some e =>
      obtain ⟨k, c⟩ := e
      cases c <;>
        simp [formOf, Json.unusableClass?, Json.isGroup, Json.className?, Json.isKey, hfirst]
  | _ => simp [formOf, Json.unusableClass?]

def readItem (v : Json) : Reading (Tree Layer) := (formOf v).bind fun f => readNode f v

theorem unusable?_readItems (i : Nat) (items : List Json) :
    (readItems i items).unusable? = items.findSome? fun v => (readItem v).unusable? := by
  induction items generalizing i with
  | nil => rfl
  | cons v rest ih =>
    rw [readItems, Reading.unusable?_map, Reading.unusable?_both, ih, List.findSome?_cons]
    unfold readItem
    cases formOf v with
    | error r => cases r <;> rfl
    | ok f =>
      simp only [Reading.unusable?_within, Except.bind]
      cases (readNode f v).unusable? <;> rfl

theorem unusable?_readLayersIn (r : Keyed Json) :
    (readLayersIn r).unusable? =
      ((Json.obj r).itemsUnder "layers").findSome? fun v => (readItem v).unusable? := by
  rw [readLayersIn_eq]
  unfold Json.itemsUnder Json.field?
  cases hget : r.get? "layers" with
  | none => simp only [hget, List.findSome?_nil, Reading.unusable?_ok]
  | some v => cases v <;> simp [hget, readLayers, unusable?_readItems]

theorem unusable?_readNode (f : Form) (v : Json) :
    (readNode f v).unusable? =
      if f.holdsLayers then (v.itemsUnder "layers").findSome? fun v => (readItem v).unusable?
      else none := by
  cases v with
  | obj r =>
    rw [readNode, assemble]
    cases f.holdsLayers <;> simp [unusable?_readLayersIn]
  | _ => simp [readNode, Json.itemsUnder, Json.field?]

theorem unusable?_readItem (v : Json) :
    (readItem v).unusable? = v.unusableClass?.or
      (if v.isGroup then (v.itemsUnder "layers").findSome? fun v => (readItem v).unusable?
        else none) := by
  unfold readItem
  rcases formOf_ok_or_unusable v with ⟨f, hf, hclass⟩ | ⟨kind, hf, hclass, hgroup⟩
  · simp only [hf, hclass, Except.bind, Option.none_or, unusable?_readNode,
      holdsLayers_of_formOf hf, readItem]
  · simp [hf, hclass, hgroup, Except.bind, Reading.unusable?]

/-! ## Below a node -/

theorem exists_of_unusable?_readItem (h : (readItem v).unusable? = some kind) :
    ∃ steps w, Json.readBelow? v.isGroup v steps = some w ∧ w.unusableClass? = some kind := by
  induction v using Json.inductionBelow with
  | h v ih =>
    rw [unusable?_readItem, Option.or_eq_some_iff] at h
    rcases h with hown | ⟨-, h⟩
    · exact ⟨[], v, rfl, hown⟩
    · cases hgroup : v.isGroup with
      | false => simp [hgroup] at h
      | true =>
        simp only [hgroup, if_true] at h
        obtain ⟨c, hc, hkind⟩ := List.exists_of_findSome?_eq_some h
        obtain ⟨steps, w, hw, hclass⟩ := ih c hc hkind
        obtain ⟨i, hi⟩ := List.mem_iff_getElem?.mp hc
        exact ⟨i :: steps, w, by simp [Json.readBelow?, hi, hw], hclass⟩

theorem unusable?_readItem_of_readBelow? {steps : List Nat}
    (hw : Json.readBelow? v.isGroup v steps = some w) (hclass : w.unusableClass? = some kind) :
    (readItem v).unusable?.isSome = true := by
  induction steps generalizing v with
  | nil =>
    cases hw
    rw [unusable?_readItem, hclass]
    rfl
  | cons i steps ih =>
    cases hgroup : v.isGroup with
    | false => simp [Json.readBelow?, hgroup] at hw
    | true =>
      simp only [Json.readBelow?, hgroup, if_true] at hw
      obtain ⟨c, hc, hw⟩ := Option.bind_eq_some_iff.mp hw
      rw [unusable?_readItem, Option.isSome_or, hgroup, if_pos rfl, Bool.or_eq_true]
      exact .inr (List.findSome?_isSome_iff.mpr ⟨c, List.mem_of_getElem? hc, ih hw⟩)

end Layer

/-! ## Documents -/

namespace Document

variable {r : Keyed Json} {kind : String}

theorem unusable?_readPages (i : Nat) (items : List Json) :
    (readPages i items).unusable? =
      items.findSome? fun v => (Layer.readNode .page v).unusable? := by
  induction items generalizing i with
  | nil => rfl
  | cons v rest ih =>
    rw [readPages, Reading.unusable?_map, Reading.unusable?_both, ih, List.findSome?_cons,
      Reading.unusable?_within]
    cases (Layer.readNode .page v).unusable? <;> rfl

theorem unusable?_read (r : Keyed Json) :
    (read r).unusable? = ((Json.obj r).itemsUnder "pages").findSome? fun v =>
      (Layer.readNode .page v).unusable? := by
  simp only [read, Reading.unusable?_map, Reading.unusable?_both, Reading.unusable?_ofChecked,
    Option.none_or, Json.itemsUnder, Json.field?]
  cases r.get? "pages" with
  | none => rfl
  | some v => cases v <;> simp [readPageList, unusable?_readPages]

theorem unusable?_page (v : Json) : (Layer.readNode .page v).unusable? =
    (v.itemsUnder "layers").findSome? fun v => (Layer.readItem v).unusable? :=
  Layer.unusable?_readNode .page v

/-- Reading a document comes upon an unusable class exactly when it gets to one below a page. -/
theorem exists_of_unusable?_read (h : (read r).unusable? = some kind) :
    ∃ path v, 2 ≤ path.length ∧ Json.readAt? (.obj r) path = some v ∧
      v.unusableClass? = some kind := by
  rw [unusable?_read] at h
  obtain ⟨page, hpage, h⟩ := List.exists_of_findSome?_eq_some h
  rw [unusable?_page] at h
  obtain ⟨c, hc, h⟩ := List.exists_of_findSome?_eq_some h
  obtain ⟨steps, w, hw, hclass⟩ := Layer.exists_of_unusable?_readItem h
  obtain ⟨i, hi⟩ := List.mem_iff_getElem?.mp hpage
  obtain ⟨j, hj⟩ := List.mem_iff_getElem?.mp hc
  exact ⟨i :: j :: steps, w, by simp, by simp [Json.readAt?, Json.readBelow?, hi, hj, hw], hclass⟩

theorem unusable?_read_of_readAt? {path : List Nat} {v : Json} (hpath : 2 ≤ path.length)
    (hv : Json.readAt? (.obj r) path = some v) (hclass : v.unusableClass? = some kind) :
    (read r).unusable?.isSome = true := by
  obtain ⟨i, j, steps, rfl⟩ : ∃ i j steps, path = i :: j :: steps := by
    match path, hpath with
    | i :: j :: steps, _ => exact ⟨i, j, steps, rfl⟩
  obtain ⟨page, hpage, hv⟩ := Option.bind_eq_some_iff.mp hv
  simp only [Json.readBelow?, if_true] at hv
  obtain ⟨c, hc, hv⟩ := Option.bind_eq_some_iff.mp hv
  have hitem := Layer.unusable?_readItem_of_readBelow? hv hclass
  have hfound : (Layer.readNode .page page).unusable?.isSome = true := by
    rw [unusable?_page]
    exact List.findSome?_isSome_iff.mpr ⟨c, List.mem_of_getElem? hc, hitem⟩
  rw [unusable?_read]
  exact List.findSome?_isSome_iff.mpr ⟨page, List.mem_of_getElem? hpage, hfound⟩

end Document

end DesignLint
