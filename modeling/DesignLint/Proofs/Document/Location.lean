import DesignLint.Proofs.Document.Contents
import DesignLint.Proofs.Document.Pointer
import DesignLint.Proofs.Document.Unusable
import DesignLint.Proofs.Keyed

/-!
# Where problems are

The path of a problem can be followed to its end, or up to its last step, which is a key that the
object there lacks. On the way stand words for the forms of nodes, which are no steps.
-/

namespace DesignLint

namespace Json

/-! ## Steps into values -/

def step? (v : Json) (s : Segment) : Option Json :=
  match v, s with
  | obj fields, .key k => Keyed.get? fields k
  | arr items, .index i => items[i]?
  | _, _ => none

/-- Steps can be taken in a value, at least all but the last, and that is then a key that the object
reached lacks. -/
inductive Leads : Json → List Segment → Prop
  | here (v : Json) : Leads v []
  | missing {fields : Keyed Json} {k : String} (h : Keyed.get? fields k = none) :
    Leads (obj fields) [.key k]
  | step {v w : Json} {s : Segment} {path : List Segment} (hs : v.step? s = some w)
    (h : Leads w path) : Leads v (s :: path)

theorem named?_of_step? {v w : Json} {s : Segment} (h : v.step? s = some w) :
    v.named? s.text = some w := by
  cases v with
  | obj fields =>
    cases s with
    | key k => exact h
    | index i => cases h
  | arr items =>
    cases s with
    | key k => cases h
    | index i =>
      rw [Segment.text, named?, placeOf?_toString]
      exact h
  | _ => cases h

theorem Leads.follow? {v : Json} {path : List Segment} (h : Leads v path) :
    (∃ w, v.follow? (path.map Segment.text) = some w) ∨
      ∃ before k fields, path.map Segment.text = before ++ [k] ∧
        v.follow? before = some (obj fields) ∧ Keyed.get? fields k = none := by
  induction h with
  | here v => exact .inl ⟨v, rfl⟩
  | @missing fields k h => exact .inr ⟨[], k, fields, rfl, rfl, h⟩
  | @step v w s path hs h ih =>
    have hnamed := named?_of_step? hs
    rcases ih with ⟨u, hu⟩ | ⟨before, k, fields, hpath, hbefore, hk⟩
    · refine .inl ⟨u, ?_⟩
      rw [List.map_cons, Json.follow?, hnamed]
      exact hu
    · refine .inr ⟨s.text :: before, k, fields, ?_, ?_, hk⟩
      · rw [List.map_cons, hpath, List.cons_append]
      · rw [Json.follow?, hnamed]
        exact hbefore

theorem ofTokens_eq_intercalate {tokens : List String} (h : tokens ≠ []) :
    "/" ++ "/".intercalate tokens = ofTokens tokens := by
  induction tokens with
  | nil => exact absurd rfl h
  | cons t rest ih =>
    rw [ofTokens_cons]
    cases rest with
    | nil =>
      rw [String.intercalate_singleton]
      exact String.append_empty.symm
    | cons u rest =>
      rw [String.intercalate_cons_cons, ← ih (List.cons_ne_nil _ _)]
      simp only [String.append_assoc]

end Json

namespace Document

/-! ## Paths of problems -/

def fieldNames : List String := [
  "pages", "layers", "_class", "class_", "do_objectID", "object_id", "name", "frame", "x", "y",
  "width", "height", "isVisible", "is_visible", "flow", "destinationArtboardID",
  "destination_artboard_id", "animationType", "animation_type", "style", "textStyle", "text_style",
  "encodedAttributes", "encoded_attributes", "MSAttributedStringFontAttribute", "font",
  "attributes", "size", "attributedString", "attributed_string", "string", "symbolID", "symbol_id"]

def IsStep : Segment → Prop
  | .key k => k ∈ fieldNames
  | .index _ => True

/-- A path is made of these steps, in order, with words for forms after the places of items. -/
inductive Branches : List Segment → List Segment → Prop
  | nil : Branches [] []
  | step {s : Segment} {path steps : List Segment} (hs : IsStep s) (h : Branches path steps) :
    Branches (s :: path) (s :: steps)
  | item {i : Nat} {f : Form} {path steps : List Segment} (h : Branches path steps) :
    Branches (.index i :: .key f.tag :: path) (.index i :: steps)

theorem isStep_of_branches {path steps : List Segment} (h : Branches path steps) :
    ∀ s ∈ steps, IsStep s := by
  induction h with
  | nil => simp
  | step hs h ih => exact List.forall_mem_cons.mpr ⟨hs, ih⟩
  | item h ih => exact List.forall_mem_cons.mpr ⟨trivial, ih⟩

theorem isTag_of_isStep {s : Segment} (h : IsStep s) : pointer.isTag s = false := by
  cases s with
  | key k =>
    have hall : ∀ k ∈ fieldNames, Form.tags.contains k = false := by decide
    exact hall k h
  | index i => rfl

theorem isTag_tag (f : Form) : pointer.isTag (.key f.tag) = true := by
  cases f <;> decide

theorem text_notMem_tags {s : Segment} (h : IsStep s) : s.text ∉ Form.tags := by
  cases s with
  | key k =>
    have hall : ∀ k ∈ fieldNames, k ∉ Form.tags := by decide
    exact hall k h
  | index i =>
    intro hmem
    have hall : ∀ t ∈ Form.tags, 'a' ∈ t.toList ∨ 'o' ∈ t.toList ∨ 't' ∈ t.toList := by decide
    rcases hall _ hmem with hc | hc | hc
    all_goals exact absurd (Json.isDigit_of_mem_toString hc) (by decide)

theorem filter_of_branches {path steps : List Segment} (h : Branches path steps) :
    path.filter (!pointer.isTag ·) = steps := by
  induction h with
  | nil => rfl
  | step hs h ih => rw [List.filter_cons_of_pos (by simp [isTag_of_isStep hs]), ih]
  | @item i f path steps h ih =>
    rw [List.filter_cons_of_pos (by simp [pointer.isTag]),
      List.filter_cons_of_neg (by simp [isTag_tag]), ih]

theorem isPlain_of_isStep {s : Segment} (h : IsStep s) : Json.IsPlain s.text := by
  cases s with
  | key k =>
    have hall : ∀ k ∈ fieldNames, '/' ∉ k.toList ∧ '~' ∉ k.toList := by decide
    exact hall k h
  | index i => exact Json.isPlain_toString i

theorem tokens?_pointer {path steps : List Segment} (h : Branches path steps) (hne : steps ≠ []) :
    Json.tokens? (pointer path) = some (steps.map Segment.text) := by
  have htokens : steps.map Segment.text ≠ [] := by simpa using hne
  rw [pointer, filter_of_branches h, Json.ofTokens_eq_intercalate htokens, Json.tokens?_ofTokens]
  intro t ht
  obtain ⟨s, hs, rfl⟩ := List.mem_map.mp ht
  exact isPlain_of_isStep (isStep_of_branches h s hs)

/-! ## Problems in a value -/

/-- There are problems, and each is at a place in the value. -/
structure Placed (v : Json) (l : List Problem) : Prop where
  ne_nil : l ≠ []
  leads : ∀ p ∈ l, ∃ steps, Branches p.path steps ∧ v.Leads steps

namespace Placed

variable {v w : Json} {l m : List Problem} {s : Segment}

theorem complaint (v : Json) (c : Complaint) (found : Json) : Placed v [⟨[], c, found⟩] where
  ne_nil := List.cons_ne_nil _ _
  leads := by simpa using ⟨[], .nil, .here v⟩

theorem append (hl : Placed v l) (hm : Placed v m) : Placed v (l ++ m) where
  ne_nil := by simp [hl.ne_nil]
  leads := List.forall_mem_append.mpr ⟨hl.leads, hm.leads⟩

theorem within (h : Placed w l) (hs : IsStep s) (hstep : v.step? s = some w) :
    Placed v (l.map (·.within s)) where
  ne_nil := by simp [h.ne_nil]
  leads := by
    intro p hp
    obtain ⟨q, hq, rfl⟩ := List.mem_map.mp hp
    obtain ⟨steps, hsteps, hleads⟩ := h.leads q hq
    exact ⟨s :: steps, .step hs hsteps, .step hstep hleads⟩

theorem item {i : Nat} (h : Placed w l) (f : Form) (hstep : v.step? (.index i) = some w) :
    Placed v ((l.map (·.within (.key f.tag))).map (·.within (.index i))) where
  ne_nil := by simp [h.ne_nil]
  leads := by
    intro p hp
    obtain ⟨p', hp', rfl⟩ := List.mem_map.mp hp
    obtain ⟨q, hq, rfl⟩ := List.mem_map.mp hp'
    obtain ⟨steps, hsteps, hleads⟩ := h.leads q hq
    exact ⟨.index i :: steps, .item hsteps, .step hstep hleads⟩

theorem lacking {fields : Keyed Json} {k : String} (hk : k ∈ fieldNames)
    (hget : fields.get? k = none) (c : Complaint) (found : Json) :
    Placed (.obj fields) [⟨[.key k], c, found⟩] where
  ne_nil := List.cons_ne_nil _ _
  leads := by simpa using ⟨[.key k], .step hk .nil, .missing hget⟩

end Placed

/-! ## Fields -/

/-- When something cannot be taken from a value, the problems are in the value. -/
def Locates {α : Type} (v : Json) (c : Checked α) : Prop := ∀ l, c = .error l → Placed v l

namespace Locates

variable {α β : Type} {v w : Json} {fields : Keyed Json} {names : List String}
  {read : Json → Checked α}

theorem ok (v : Json) (a : α) : Locates v (.ok a) := nofun

theorem complain (v : Json) (c : Complaint) (found : Json) :
    Locates v (Checked.complain c found : Checked α) := by
  rintro l ⟨⟩
  exact .complaint v c found

theorem map {c : Checked α} (h : Locates v c) (f : α → β) : Locates v (c.map f) := by
  intro l hl
  exact h l (Outcome.map_eq_error_iff.mp hl)

theorem both {c : Checked α} {d : Checked β} (hc : Locates v c) (hd : Locates v d) :
    Locates v (Checked.both c d) := by
  intro l hl
  rcases c with p | x <;> rcases d with q | y <;> cases hl
  · exact (hc _ rfl).append (hd _ rfl)
  · exact hc _ rfl
  · exact hd _ rfl

theorem within {c : Checked α} {s : Segment} (h : Locates w c) (hs : IsStep s)
    (hstep : v.step? s = some w) : Locates v (c.within s) := by
  intro l hl
  obtain ⟨m, hm, rfl⟩ := Outcome.mapError_eq_error_iff.mp hl
  exact (h m hm).within hs hstep

theorem of_first? {k : String} (hread : ∀ v, Locates v (read v)) (hnames : ∀ k ∈ names, k ∈ fieldNames)
    (hfirst : fields.first? names = some (k, w)) :
    Locates (.obj fields) ((read w).within (.key k)) := by
  obtain ⟨hk, hget⟩ := Keyed.mem_of_first? hfirst
  exact (hread w).within (hnames k hk) hget

theorem defaulted (hread : ∀ v, Locates v (read v)) (a : α)
    (hnames : ∀ k ∈ names, k ∈ fieldNames) :
    Locates (.obj fields) (Field.defaulted names read a fields) := by
  unfold Field.defaulted
  split
  · rename_i k w hfirst
    exact of_first? hread hnames hfirst
  · exact ok _ a

theorem required {name : String} {others : List String} (hread : ∀ v, Locates v (read v))
    (hnames : ∀ k ∈ name :: others, k ∈ fieldNames) :
    Locates (.obj fields) (Field.required (name :: others) read fields) := by
  unfold Field.required
  split
  · rename_i k w hfirst
    exact of_first? hread hnames hfirst
  · rename_i hnone
    rintro l ⟨⟩
    exact .lacking (hnames name List.mem_cons_self)
      (Keyed.get?_of_first?_eq_none hnone name List.mem_cons_self) _ _

theorem optional (hread : ∀ v, Locates v (read v)) (v : Json) :
    Locates v (Field.optional read v) := by
  unfold Field.optional
  split
  · exact ok _ none
  · exact (hread v).map some

theorem record {name : String} {read : Keyed Json → Checked α}
    (hread : ∀ fields, Locates (.obj fields) (read fields)) (v : Json) :
    Locates v (Field.record name read v) := by
  unfold Field.record
  split
  · exact hread _
  · exact complain _ _ _

/-! ## Values of fields -/

theorem text (v : Json) : Locates v (Field.text v) := by
  unfold Field.text
  split
  · exact ok _ _
  · exact complain v _ _

theorem nonemptyText (v : Json) : Locates v (Field.nonemptyText v) := by
  unfold Field.nonemptyText
  split
  · split
    · exact complain _ _ _
    · exact ok _ _
  · exact complain v _ _

theorem float (v : Json) : Locates v (Field.float v) := by
  unfold Field.float
  repeat' split
  all_goals first | exact ok _ _ | exact complain _ _ _

theorem floatFrom (bound : Number) (v : Json) : Locates v (Field.floatFrom bound v) := by
  intro l hl
  rcases Outcome.bind_eq_error_iff.mp hl with hl | ⟨x, -, hl⟩
  · exact float v l hl
  · split at hl
    · cases hl
    · exact complain v _ _ l hl

theorem flag (v : Json) : Locates v (Field.flag v) := by
  have hwhole : ∀ n, Locates v (Field.flag.ofWhole v n) := by
    intro n
    unfold Field.flag.ofWhole
    repeat' split
    all_goals first | exact ok _ _ | exact complain _ _ _
  unfold Field.flag
  repeat' split
  all_goals first | exact ok _ _ | exact complain _ _ _ | exact hwhole _

theorem whole (v : Json) : Locates v (Field.whole v) := by
  unfold Field.whole
  repeat' split
  all_goals first | exact ok _ _ | exact complain _ _ _

end Locates

/-! ## Records in layers -/

theorem locates_rect (v : Json) : Locates v (Rect.read v) :=
  .record (fun _ => ((Locates.defaulted .float _ (by decide)).both
    ((Locates.defaulted .float _ (by decide)).both
      ((Locates.required (.floatFrom _) (by decide)).both
        (.required (.floatFrom _) (by decide))))).map _) v

theorem locates_flow (v : Json) : Locates v (Flow.read v) :=
  .record (fun _ => ((Locates.required .text (by decide)).both
    (.defaulted (.optional .whole) _ (by decide))).map _) v

theorem locates_font (v : Json) : Locates v (Font.read v) :=
  .record (fun _ => ((Locates.required .text (by decide)).both
    (.required .float (by decide))).map _) v

theorem locates_wrappedFont (v : Json) : Locates v (Font.readWrapped v) :=
  .record (fun _ => .required locates_font (by decide)) v

theorem locates_textStyle (v : Json) : Locates v (TextStyle.read v) :=
  .record (fun _ => .required (.record fun _ =>
    (Locates.defaulted (.optional locates_wrappedFont) _ (by decide)).map _) (by decide)) v

theorem locates_style (v : Json) : Locates v (Style.read v) :=
  .record (fun _ => (Locates.defaulted (.optional locates_textStyle) _ (by decide)).map _) v

theorem locates_content (v : Json) : Locates v (Layer.readContent v) :=
  .record (fun _ => .defaulted .text _ (by decide)) v

theorem locates_common (form : Form) (fields : Keyed Json) :
    Locates (.obj fields) (Layer.readCommon form fields) :=
  ((Locates.required .nonemptyText (by decide)).both
    ((Locates.required .nonemptyText (by decide)).both
      ((Locates.defaulted .text _ (by decide)).both
        ((Locates.required locates_rect (by decide)).both
          ((Locates.defaulted .flag _ (by decide)).both
            ((Locates.defaulted (.optional locates_flow) _ (by decide)).both
              (.defaulted (.optional locates_style) _ (by decide)))))))).map _

theorem locates_own (form : Form) (fields : Keyed Json) :
    Locates (.obj fields) (Layer.readOwn form fields) := by
  have hsymbol : Locates (.obj fields) (Layer.readOwn.readSymbol fields) :=
    (Locates.defaulted .text _ (by decide)).map _
  cases form with
  | text => exact (Locates.defaulted locates_content _ (by decide)).map _
  | symbolInstance => exact hsymbol
  | symbolMaster => exact hsymbol
  | _ => exact .ok _ _

/-! ## Nodes -/

def LocatesAll {α : Type} (v : Json) (a : Reading α) : Prop :=
  ∀ l, a = .error (.problems l) → Placed v l

namespace LocatesAll

variable {α β : Type} {v w : Json}

theorem ok (v : Json) (a : α) : LocatesAll v (.ok a) := nofun

theorem ofChecked {c : Checked α} (h : Locates v c) : LocatesAll v (Reading.ofChecked c) := by
  intro l hl
  obtain ⟨m, hm, heq⟩ := Outcome.mapError_eq_error_iff.mp hl
  cases heq
  exact h l hm

theorem map {a : Reading α} (h : LocatesAll v a) (f : α → β) : LocatesAll v (a.map f) := by
  intro l hl
  exact h l (Outcome.map_eq_error_iff.mp hl)

theorem both {a : Reading α} {b : Reading β} (ha : LocatesAll v a) (hb : LocatesAll v b) :
    LocatesAll v (Reading.both a b) := by
  intro l hl
  rcases a with (p | k) | x <;> rcases b with (q | k') | y <;> cases hl
  · exact (ha _ rfl).append (hb _ rfl)
  · exact ha _ rfl
  · exact hb _ rfl

theorem problems_of_within {s : Segment} {a : Reading α} {l : List Problem}
    (h : Reading.within s a = .error (.problems l)) :
    ∃ m, a = .error (.problems m) ∧ l = m.map (·.within s) := by
  rcases a with (m | k) | x <;> cases h
  exact ⟨m, rfl, rfl⟩

theorem within {a : Reading α} {s : Segment} (h : LocatesAll w a) (hs : IsStep s)
    (hstep : v.step? s = some w) : LocatesAll v (Reading.within s a) := by
  intro l hl
  obtain ⟨m, hm, rfl⟩ := problems_of_within hl
  exact (h m hm).within hs hstep

theorem item {a : Reading α} {i : Nat} {f : Form} (h : LocatesAll w a)
    (hstep : v.step? (.index i) = some w) :
    LocatesAll v (Reading.within (.index i) (Reading.within (.key f.tag) a)) := by
  intro l hl
  obtain ⟨m, hm, rfl⟩ := problems_of_within hl
  obtain ⟨n, hn, rfl⟩ := problems_of_within hm
  exact (h n hn).item f hstep

end LocatesAll

theorem step?_index (before : List Json) (v : Json) (rest : List Json) :
    (Json.arr (before ++ v :: rest)).step? (.index before.length) = some v := by
  simp [Json.step?]

theorem locates_items {items : List Json}
    (h : ∀ v ∈ items, ∀ f, LocatesAll v (Layer.readNode f v)) :
    LocatesAll (.arr items) (Layer.readItems 0 items) := by
  suffices hrest : ∀ before rest, before ++ rest = items →
      LocatesAll (.arr items) (Layer.readItems before.length rest) from hrest [] items rfl
  intro before rest hsplit
  induction rest generalizing before with
  | nil => exact .ok _ _
  | cons v rest ih =>
    have hmem : v ∈ items := by simp [← hsplit]
    have hstep : (Json.arr items).step? (.index before.length) = some v := by
      rw [← hsplit]
      exact step?_index before v rest
    have hothers := ih (before ++ [v]) (by simpa using hsplit)
    rw [List.length_append, List.length_singleton] at hothers
    rw [Layer.readItems]
    refine (LocatesAll.both ?_ hothers).map _
    split
    · -- An unusable class is no problem at a place.
      rename_i e hform
      rcases Layer.formOf_ok_or_unusable v with ⟨f, hf, -⟩ | ⟨kind, hf, -⟩
      · rw [hf] at hform
        cases hform
      · rw [hf] at hform
        cases hform
        rintro l ⟨⟩
    · exact (h v hmem _).item hstep

theorem locates_node (v : Json) : ∀ f, LocatesAll v (Layer.readNode f v) := by
  induction v using Json.inductionBelow with
  | h v ih =>
    intro f
    cases v with
    | obj fields =>
      have hlayers : LocatesAll (.obj fields) (Layer.readLayersIn fields) := by
        rw [Layer.readLayersIn_eq]
        cases hget : Keyed.get? fields "layers" with
        | none => exact .ok _ _
        | some w =>
          refine LocatesAll.within ?_ (show "layers" ∈ fieldNames by decide) hget
          cases w with
          | arr items =>
            refine locates_items fun c hc => ih c ?_
            simpa [Json.itemsUnder, Json.field?, hget] using hc
          | _ => exact .ofChecked (.complain _ _ _)
      rw [Layer.readNode, Layer.assemble]
      refine (((LocatesAll.ofChecked (locates_common f fields)).both ?_).both
        (.ofChecked (locates_own f fields))).map _
      split
      · exact hlayers
      · exact .ok _ _
    | _ => exact .ofChecked (.complain _ _ _)

/-! ## Documents -/

theorem locates_pages (items : List Json) : LocatesAll (.arr items) (readPages 0 items) := by
  suffices hrest : ∀ before rest, before ++ rest = items →
      LocatesAll (.arr items) (readPages before.length rest) from hrest [] items rfl
  intro before rest hsplit
  induction rest generalizing before with
  | nil => exact .ok _ _
  | cons v rest ih =>
    have hstep : (Json.arr items).step? (.index before.length) = some v := by
      rw [← hsplit]
      exact step?_index before v rest
    have hothers := ih (before ++ [v]) (by simpa using hsplit)
    rw [List.length_append, List.length_singleton] at hothers
    rw [readPages]
    have hplace : IsStep (.index before.length) := trivial
    exact (((locates_node v .page).within hplace hstep).both hothers).map _

theorem locates_read (r : Keyed Json) : LocatesAll (.obj r) (read r) := by
  refine ((LocatesAll.ofChecked (.defaulted .text _ (by decide))).both ?_).map _
  split
  · rename_i v hget
    refine LocatesAll.within ?_ (show "pages" ∈ fieldNames by decide) hget
    cases v with
    | arr items => exact locates_pages items
    | _ => exact .ofChecked (.complain _ _ _)
  · exact .ok _ _

theorem mem_problems_of_both {α β : Type} {a : Reading α} {b : Reading β} {l : List Problem}
    (h : Reading.both a b = .error (.problems l)) {p : Problem} (hp : p ∈ l) :
    (∃ m, a = .error (.problems m) ∧ p ∈ m) ∨ ∃ m, b = .error (.problems m) ∧ p ∈ m := by
  rcases a with (m | k) | x <;> rcases b with (n | k') | y <;> cases h
  · exact (List.mem_append.mp hp).imp (fun hm => ⟨m, rfl, hm⟩) fun hn => ⟨n, rfl, hn⟩
  · exact .inl ⟨_, rfl, hp⟩
  · exact .inr ⟨_, rfl, hp⟩

theorem path_ne_nil {r : Keyed Json} {l : List Problem} (h : read r = .error (.problems l))
    {p : Problem} (hp : p ∈ l) : p.path ≠ [] := by
  have hwithin : ∀ (s : Segment) (m : List Problem), p ∈ m.map (·.within s) → p.path ≠ [] := by
    intro s m hm
    obtain ⟨q, -, rfl⟩ := List.mem_map.mp hm
    exact List.cons_ne_nil _ _
  rcases mem_problems_of_both (Outcome.map_eq_error_iff.mp h) hp with ⟨m, hm, hp⟩ | ⟨m, hm, hp⟩
  · obtain ⟨n, hn, heq⟩ := Outcome.mapError_eq_error_iff.mp hm
    cases heq
    unfold Field.defaulted at hn
    split at hn
    · obtain ⟨q, -, rfl⟩ := Outcome.mapError_eq_error_iff.mp hn
      exact hwithin _ _ hp
    · cases hn
  · split at hm
    · obtain ⟨n, -, rfl⟩ := LocatesAll.problems_of_within hm
      exact hwithin _ _ hp
    · cases hm

/-! ## The law -/

/-- A document that does not fit is refused with the pointer of its first problem: a way into the
document that ends there, or with a key that the object reached lacks. -/
theorem pointer_of_load {s : Source} {r : Keyed Json} {l : List Problem} (hr : contents s = .ok r)
    (hl : read r = .error (.problems l)) :
    ∃ p ∈ l, load s = .error (.document (.invalidFields l.length p.complaint (pointer p.path))) ∧
      ∃ steps, Branches p.path steps ∧
        Json.tokens? (pointer p.path) = some (steps.map Segment.text) ∧
        (∀ t ∈ steps.map Segment.text, t ∉ Form.tags) ∧
        ((∃ w, (Json.obj r).resolve? (pointer p.path) = some w) ∨
          ∃ before k fields, steps.map Segment.text = before ++ [k] ∧
            (Json.obj r).follow? before = some (.obj fields) ∧ Keyed.get? fields k = none) := by
  obtain ⟨hne, hleads⟩ := locates_read r l hl
  obtain ⟨p, rest, rfl⟩ := List.exists_cons_of_ne_nil hne
  have hp : p ∈ p :: rest := List.mem_cons_self
  obtain ⟨steps, hsteps, hlead⟩ := hleads p hp
  have hpath := path_ne_nil hl hp
  have hnonempty : steps ≠ [] := by
    rintro rfl
    generalize p.path = path at hsteps hpath
    cases hsteps
    exact hpath rfl
  have htokens := tokens?_pointer hsteps hnonempty
  refine ⟨p, hp, ?_, steps, hsteps, htokens, ?_, ?_⟩
  · rw [load_eq, hr]
    change (read r).mapError rejectionFault = _
    rw [hl]
    rfl
  · intro t ht
    obtain ⟨s, hs, rfl⟩ := List.mem_map.mp ht
    exact text_notMem_tags (isStep_of_branches hsteps s hs)
  · rw [Json.resolve?, htokens]
    exact hlead.follow?

/-! ## A text without a frame -/

def framelessFields : Keyed Json :=
  [("pages", .arr [rawLayer "_class" (.str "page") "p" [rawLayer "_class" (.str "group") "g"
    [rawLayer "_class" (.str "rectangle") "l" [],
      .obj [("_class", .str "text"), ("do_objectID", .str "t")]]]])]

def rawFrameless : Json := .obj [("document", .obj framelessFields), ("meta", .null)]

theorem pointer_of_load_rawFrameless :
    ∃ p : Problem, load (.value rawFrameless) = .error (.document
        (.invalidFields 1 p.complaint (pointer p.path))) ∧
      p.path = [.key "pages", .index 0, .key "layers", .index 0, .key "group", .key "layers",
        .index 1, .key "text", .key "frame"] ∧
      Json.tokens? (pointer p.path) =
        some (["pages", "0", "layers", "0", "layers", "1"] ++ ["frame"]) ∧
      ∃ fields, (Json.obj framelessFields).follow? ["pages", "0", "layers", "0", "layers", "1"] =
        some (.obj fields) ∧ Keyed.get? fields "frame" = none := by
  have hr : contents (.value rawFrameless) = .ok framelessFields := rfl
  have hl : read framelessFields = .error (.problems _) := rfl
  obtain ⟨p, hp, hload, steps, hsteps, htokens, -, -⟩ := pointer_of_load hr hl
  cases List.mem_singleton.mp hp
  rw [← filter_of_branches hsteps] at htokens
  exact ⟨_, hload, rfl, htokens, _, (Json.follow?_of_itemsUnder (i := 0) rfl).trans
    (Json.follow?_tokensBelow (show Json.layerBelow? _ [0, 1] = some _ from rfl)), rfl⟩

end Document

end DesignLint
