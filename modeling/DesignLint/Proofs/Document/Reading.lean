import DesignLint.Document.Reading
import DesignLint.Proofs.Document.Path
import DesignLint.Proofs.Field
import DesignLint.Proofs.Tree.Path

/-! # What was read -/

namespace DesignLint

namespace Reading

variable {α β : Type}

theorem both_eq_ok_iff {a : Reading α} {b : Reading β} {p : α × β} :
    both a b = .ok p ↔ a = .ok p.1 ∧ b = .ok p.2 := by
  obtain ⟨x, y⟩ := p
  rcases a with (_ | _) | _ <;> rcases b with (_ | _) | _ <;> simp [both]

theorem within_eq_ok_iff {s : Segment} {r : Reading α} {a : α} : within s r = .ok a ↔ r = .ok a :=
  Outcome.mapError_eq_ok_iff

theorem ofChecked_eq_ok_iff {r : Checked α} {a : α} : ofChecked r = .ok a ↔ r = .ok a :=
  Outcome.mapError_eq_ok_iff

theorem ofChecked_complain_ne_ok {c : Complaint} {v : Json} {a : α} :
    ofChecked (Checked.complain c v) ≠ .ok a := by
  rw [ne_eq, ofChecked_eq_ok_iff]
  simp [Checked.complain]

end Reading

namespace Layer

/-! ## Fields of a layer -/

/-- A layer was read, as one of a form, from the fields of an object. -/
structure ReadFrom (f : Form) (r : Keyed Json) (l : Layer) : Prop where
  form : l.form = f
  cls : ∃ k, r.first? classNames = some (k, .str l.cls)
  cls_ne : l.cls ≠ ""
  id : ∃ k, r.first? idNames = some (k, .str l.id)
  id_ne : l.id ≠ ""
  name : (r.get? "name").getD (.str "") = .str l.name
  content : l.content.isSome = true ↔ f = .text

theorem readOwn_eq_ok {f : Form} {r : Keyed Json} {own : Layer → Layer} (h : readOwn f r = .ok own)
    {l : Layer} (hl : l.content = none) :
    own l = { l with content := (own l).content, symbol := (own l).symbol } ∧
      ((own l).content.isSome = true ↔ f = .text) := by
  cases f with
  | text =>
    obtain ⟨_, _, rfl⟩ := Outcome.map_eq_ok_iff.mp h
    exact ⟨rfl, by simp⟩
  | symbolMaster =>
    obtain ⟨_, _, rfl⟩ := Outcome.map_eq_ok_iff.mp h
    exact ⟨rfl, by simp [hl]⟩
  | symbolInstance =>
    obtain ⟨_, _, rfl⟩ := Outcome.map_eq_ok_iff.mp h
    exact ⟨rfl, by simp [hl]⟩
  | _ =>
    cases h
    exact ⟨rfl, by simp [hl]⟩

theorem readFrom_of_fields {f : Form} {r : Keyed Json} {l : Layer} {own : Layer → Layer}
    (hcommon : readCommon f r = .ok l) (hown : readOwn f r = .ok own) : ReadFrom f r (own l) := by
  obtain ⟨⟨cls, id, name, frame, isVisible, flow, style⟩, hfields, rfl⟩ :=
    Outcome.map_eq_ok_iff.mp hcommon
  obtain ⟨hcls, hfields⟩ := Outcome.both_eq_ok_iff.mp hfields
  obtain ⟨hid, hfields⟩ := Outcome.both_eq_ok_iff.mp hfields
  obtain ⟨hname, -⟩ := Outcome.both_eq_ok_iff.mp hfields
  obtain ⟨k, v, hfirst, hv⟩ := Field.required_eq_ok_iff.mp hcls
  obtain ⟨rfl, hcls_ne⟩ := Field.nonemptyText_eq_ok_iff.mp hv
  obtain ⟨j, w, hfirst', hw⟩ := Field.required_eq_ok_iff.mp hid
  obtain ⟨rfl, hid_ne⟩ := Field.nonemptyText_eq_ok_iff.mp hw
  have hempty : (Layer.mk f cls id name frame isVisible flow style none none).content = none := rfl
  obtain ⟨hsame, hcontent⟩ := readOwn_eq_ok hown hempty
  exact {
    form := congrArg Layer.form hsame
    cls := ⟨k, by rw [hsame]; exact hfirst⟩
    cls_ne := by rw [hsame]; exact hcls_ne
    id := ⟨j, by rw [hsame]; exact hfirst'⟩
    id_ne := by rw [hsame]; exact hid_ne
    name := by rw [hsame]; exact Field.getD_of_defaulted_text hname
    content := hcontent }

/-! ## Nodes -/

theorem formOf_eq_ok {v : Json} {f : Form} (h : formOf v = .ok f) :
    f = (v.className?.bind (Form.ofClass.lookup ·)).getD .plain := by
  cases v with
  | obj r =>
    cases hfirst : Keyed.first? r classNames with
    | none =>
      simp only [formOf, hfirst, Except.ok.injEq] at h
      simp [Json.className?, hfirst, ← h]
    | some e =>
      obtain ⟨k, c⟩ := e
      cases c with
      | str s =>
        simp only [formOf, hfirst, Except.ok.injEq] at h
        simp [Json.className?, hfirst, ← h]
      | arr items => simp [formOf, hfirst, Json.isKey] at h
      | obj fields => simp [formOf, hfirst, Json.isKey] at h
      | _ =>
        simp only [formOf, hfirst, Json.isKey, if_true, Except.ok.injEq] at h
        simp [Json.className?, hfirst, ← h]
  | _ =>
    simp only [formOf, Except.ok.injEq] at h
    simp [Json.className?, ← h]

theorem holdsLayers_ofClass (s : String) :
    ((Form.ofClass.lookup s).getD .plain).holdsLayers = Kind.groupClasses.contains s := by
  simp only [Form.ofClass, Kind.groupClasses, List.lookup_cons, List.lookup_nil,
    List.contains_cons, List.contains_nil]
  repeat' split
  all_goals simp_all [Form.holdsLayers]

theorem holdsLayers_of_formOf {v : Json} {f : Form} (h : formOf v = .ok f) :
    f.holdsLayers = v.isGroup := by
  rw [formOf_eq_ok h, Json.isGroup]
  cases v.className? with
  | none => rfl
  | some s => exact holdsLayers_ofClass s

/-- The value of an item among layers is read as this tree. -/
def ReadsAs (v : Json) (t : Tree Layer) : Prop := ∃ f, formOf v = .ok f ∧ readNode f v = .ok t

theorem readItems_eq_ok {i : Nat} {items : List Json} {ts : List (Tree Layer)}
    (h : readItems i items = .ok ts) : List.Forall₂ ReadsAs items ts := by
  induction items generalizing i ts with
  | nil =>
    rw [readItems] at h
    cases h
    exact .nil
  | cons v rest ih =>
    rw [readItems] at h
    obtain ⟨⟨t, us⟩, hboth, rfl⟩ := Outcome.map_eq_ok_iff.mp h
    obtain ⟨ht, hus⟩ := Reading.both_eq_ok_iff.mp hboth
    refine .cons ?_ (ih hus)
    split at ht
    · cases ht
    · rename_i f hf
      exact ⟨f, hf, Reading.within_eq_ok_iff.mp (Reading.within_eq_ok_iff.mp ht)⟩

theorem readLayersIn_eq (r : Keyed Json) : readLayersIn r =
    match r.get? "layers" with
    | some v => Reading.within (.key "layers") (readLayers v)
    | none => .ok [] := by
  induction r with
  | nil => rfl
  | cons e rest ih =>
    rw [readLayersIn, Keyed.get?_cons]
    by_cases h : e.1 = "layers"
    · simp [h]
    · simp [h, ih]

theorem readLayersIn_eq_ok {r : Keyed Json} {ts : List (Tree Layer)} (h : readLayersIn r = .ok ts) :
    List.Forall₂ ReadsAs ((Json.obj r).itemsUnder "layers") ts := by
  rw [readLayersIn_eq] at h
  unfold Json.itemsUnder Json.field?
  cases hget : r.get? "layers" with
  | none =>
    simp only [hget] at h ⊢
    cases h
    exact .nil
  | some v =>
    simp only [hget, Reading.within_eq_ok_iff] at h ⊢
    cases v with
    | arr items =>
      rw [readLayers] at h
      exact readItems_eq_ok h
    | _ => simp [readLayers, Reading.ofChecked_complain_ne_ok] at h

theorem readNode_eq_ok {f : Form} {v : Json} {t : Tree Layer} (h : readNode f v = .ok t) :
    ∃ r, v = .obj r ∧ t.label.ReadFrom f r ∧
      List.Forall₂ ReadsAs (if f.holdsLayers then v.itemsUnder "layers" else []) t.children := by
  cases v with
  | obj r =>
    rw [readNode, assemble] at h
    obtain ⟨⟨⟨l, ts⟩, own⟩, hboth, rfl⟩ := Outcome.map_eq_ok_iff.mp h
    obtain ⟨hboth, hown⟩ := Reading.both_eq_ok_iff.mp hboth
    obtain ⟨hcommon, hlayers⟩ := Reading.both_eq_ok_iff.mp hboth
    refine ⟨r, rfl, readFrom_of_fields (Reading.ofChecked_eq_ok_iff.mp hcommon)
      (Reading.ofChecked_eq_ok_iff.mp hown), ?_⟩
    cases hholds : f.holdsLayers with
    | false =>
      simp only [hholds] at hlayers
      cases hlayers
      exact .nil
    | true =>
      simp only [hholds] at hlayers
      exact readLayersIn_eq_ok hlayers
  | _ => simp [readNode, Reading.ofChecked_complain_ne_ok] at h

/-! ## Nodes below a node -/

theorem exists_readBelow? {f : Form} {v : Json} {t u : Tree Layer} {steps : List Nat}
    (h : readNode f v = .ok t) (hu : Tree.subtree? t steps = some u) :
    ∃ w g, Json.readBelow? f.holdsLayers v steps = some w ∧ readNode g w = .ok u ∧
      (if steps = [] then g = f else formOf w = .ok g) := by
  induction steps generalizing f v t with
  | nil =>
    cases hu
    exact ⟨v, f, rfl, h, rfl⟩
  | cons i steps ih =>
    obtain ⟨r, rfl, -, hall⟩ := readNode_eq_ok h
    obtain ⟨c, hc, hu⟩ := Option.bind_eq_some_iff.mp hu
    obtain ⟨w, hw, hread⟩ := Outcome.exists_getElem?_of_forall₂ hall hc
    cases hholds : f.holdsLayers with
    | false => simp [hholds] at hw
    | true =>
      simp only [hholds, if_true] at hw
      obtain ⟨g, hg, hnode⟩ := hread
      obtain ⟨x, g', hx, hx', hform⟩ := ih hnode hu
      rw [holdsLayers_of_formOf hg] at hx
      refine ⟨x, g', by simp [Json.readBelow?, hw, hx], hx', ?_⟩
      rw [if_neg (List.cons_ne_nil _ _)]
      by_cases hlast : steps = []
      · subst hlast
        cases hx
        rw [if_pos rfl] at hform
        rw [hform]
        exact hg
      · rwa [if_neg hlast] at hform

theorem exists_subtree? {f : Form} {v w : Json} {t : Tree Layer} {steps : List Nat}
    (h : readNode f v = .ok t) (hw : Json.readBelow? f.holdsLayers v steps = some w) :
    ∃ u, Tree.subtree? t steps = some u := by
  induction steps generalizing f v t with
  | nil => exact ⟨t, rfl⟩
  | cons i steps ih =>
    obtain ⟨r, rfl, -, hall⟩ := readNode_eq_ok h
    cases hholds : f.holdsLayers with
    | false => simp [Json.readBelow?, hholds] at hw
    | true =>
      simp only [Json.readBelow?, hholds, if_true] at hw hall
      obtain ⟨x, hx, hw⟩ := Option.bind_eq_some_iff.mp hw
      obtain ⟨c, hc, g, hg, hnode⟩ := Outcome.exists_getElem?_of_forall₂ hall.flip hx
      rw [← holdsLayers_of_formOf hg] at hw
      obtain ⟨u, hu⟩ := ih hnode hw
      exact ⟨u, by simp [Tree.subtree?, hc, hu]⟩

end Layer

/-! ## Documents -/

namespace Document

theorem readPages_eq_ok {i : Nat} {items : List Json} {ts : List (Tree Layer)}
    (h : readPages i items = .ok ts) :
    List.Forall₂ (fun v t => Layer.readNode .page v = .ok t) items ts := by
  induction items generalizing i ts with
  | nil =>
    rw [readPages] at h
    cases h
    exact .nil
  | cons v rest ih =>
    rw [readPages] at h
    obtain ⟨⟨t, us⟩, hboth, rfl⟩ := Outcome.map_eq_ok_iff.mp h
    obtain ⟨ht, hus⟩ := Reading.both_eq_ok_iff.mp hboth
    exact .cons (Reading.within_eq_ok_iff.mp ht) (ih hus)

theorem read_eq_ok {r : Keyed Json} {d : Document} (h : read r = .ok d) :
    List.Forall₂ (fun v t => Layer.readNode .page v = .ok t) ((Json.obj r).itemsUnder "pages")
      d.pages := by
  obtain ⟨⟨id, pages⟩, hboth, rfl⟩ := Outcome.map_eq_ok_iff.mp h
  have hpages := (Reading.both_eq_ok_iff.mp hboth).2
  unfold Json.itemsUnder Json.field?
  cases hget : r.get? "pages" with
  | none =>
    simp only [hget] at hpages ⊢
    cases hpages
    exact .nil
  | some v =>
    simp only [hget, Reading.within_eq_ok_iff] at hpages ⊢
    cases v with
    | arr items => exact readPages_eq_ok hpages
    | _ => simp [readPageList, Reading.ofChecked_complain_ne_ok] at hpages

/-- Every node of a document that was read was read from the object to which reading gets at its
path. -/
theorem readAt?_of_at? {r : Keyed Json} {d : Document} {path : List Nat} {l : Layer}
    (h : read r = .ok d) (hl : Tree.at? d.pages path = some l) :
    ∃ fields f, Json.readAt? (.obj r) path = some (.obj fields) ∧ l.ReadFrom f fields ∧
      (if path.length = 1 then f = .page else Layer.formOf (.obj fields) = .ok f) := by
  cases path with
  | nil => cases hl
  | cons i steps =>
    obtain ⟨u, hu, rfl⟩ := Option.map_eq_some_iff.mp hl
    obtain ⟨t, ht, hu⟩ := Option.bind_eq_some_iff.mp hu
    obtain ⟨v, hv, hnode⟩ := Outcome.exists_getElem?_of_forall₂ (read_eq_ok h) ht
    obtain ⟨w, f, hw, hread, hform⟩ := Layer.exists_readBelow? hnode hu
    obtain ⟨fields, rfl, hfrom, -⟩ := Layer.readNode_eq_ok hread
    refine ⟨fields, f, ?_, hfrom, by simpa using hform⟩
    rw [Json.readAt?, hv]
    exact hw

theorem exists_at?_of_readAt? {r : Keyed Json} {d : Document} {path : List Nat} {w : Json}
    (h : read r = .ok d) (hw : Json.readAt? (.obj r) path = some w) :
    ∃ l, Tree.at? d.pages path = some l := by
  cases path with
  | nil => cases hw
  | cons i steps =>
    obtain ⟨v, hv, hw⟩ := Option.bind_eq_some_iff.mp hw
    obtain ⟨t, ht, hnode⟩ := Outcome.exists_getElem?_of_forall₂ (read_eq_ok h).flip hv
    obtain ⟨u, hu⟩ := Layer.exists_subtree? hnode hw
    exact ⟨u.label, by simp [Tree.at?, ht, hu]⟩

end Document

end DesignLint
