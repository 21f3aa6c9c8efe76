import DesignLint.Proofs.Document.Contents
import DesignLint.Proofs.Index.Build
import DesignLint.Proofs.Number.FloatOrder

/-! # Documents that were loaded, in the index -/

namespace DesignLint

/-! ## Frames that were read -/

theorem Field.le_of_floatFrom {bound : Number} {v : Json} {x : Float}
    (h : floatFrom bound v = .ok x) : bound.toFloat ≤ x := by
  obtain ⟨y, -, hy⟩ := Outcome.bind_eq_ok_iff.mp h
  split at hy
  · rename_i hle
    cases hy
    exact hle
  · cases hy

theorem Number.isNegative_of_le {x : Float} (h : (Number.whole 0).toFloat ≤ x) :
    (Number.float x).isNegative = false :=
  decide_eq_false fun hlt => FloatOrder.not_le_of_lt hlt h

namespace Layer

variable {f : Form} {v : Json} {t : Tree Layer}

theorem isNegative_of_read {v : Json} {frame : Rect} (h : Rect.read v = .ok frame) :
    (Number.float frame.width).isNegative = false ∧
      (Number.float frame.height).isNegative = false := by
  cases v with
  | obj r =>
    obtain ⟨⟨x, y, width, height⟩, hfields, rfl⟩ := Outcome.map_eq_ok_iff.mp h
    obtain ⟨-, hfields⟩ := Outcome.both_eq_ok_iff.mp hfields
    obtain ⟨-, hfields⟩ := Outcome.both_eq_ok_iff.mp hfields
    obtain ⟨hwidth, hheight⟩ := Outcome.both_eq_ok_iff.mp hfields
    obtain ⟨_, _, -, hwidth⟩ := Field.required_eq_ok_iff.mp hwidth
    obtain ⟨_, _, -, hheight⟩ := Field.required_eq_ok_iff.mp hheight
    exact ⟨Number.isNegative_of_le (Field.le_of_floatFrom hwidth),
      Number.isNegative_of_le (Field.le_of_floatFrom hheight)⟩
  | _ => cases h

theorem hasValidFrame_of_readCommon {r : Keyed Json} {l : Layer} (h : readCommon f r = .ok l) :
    (view l).HasValidFrame := by
  obtain ⟨⟨cls, id, name, frame, isVisible, flow, style⟩, hfields, rfl⟩ :=
    Outcome.map_eq_ok_iff.mp h
  obtain ⟨-, hfields⟩ := Outcome.both_eq_ok_iff.mp hfields
  obtain ⟨-, hfields⟩ := Outcome.both_eq_ok_iff.mp hfields
  obtain ⟨-, hfields⟩ := Outcome.both_eq_ok_iff.mp hfields
  obtain ⟨hframe, -⟩ := Outcome.both_eq_ok_iff.mp hfields
  obtain ⟨_, _, -, hframe⟩ := Field.required_eq_ok_iff.mp hframe
  obtain ⟨hwidth, hheight⟩ := isNegative_of_read hframe
  exact ⟨_, _, rfl, hwidth, hheight⟩

/-! ## Nodes that were read -/

theorem exists_readCommon_of_readNode (h : readNode f v = .ok t) :
    ∃ r l own, readCommon f r = .ok l ∧ readOwn f r = .ok own ∧ t.label = own l := by
  cases v with
  | obj r =>
    rw [readNode, assemble] at h
    obtain ⟨⟨⟨l, ts⟩, own⟩, hboth, rfl⟩ := Outcome.map_eq_ok_iff.mp h
    obtain ⟨hboth, hown⟩ := Reading.both_eq_ok_iff.mp hboth
    obtain ⟨hcommon, -⟩ := Reading.both_eq_ok_iff.mp hboth
    exact ⟨r, l, own, Reading.ofChecked_eq_ok_iff.mp hcommon, Reading.ofChecked_eq_ok_iff.mp hown,
      rfl⟩
  | _ => simp [readNode, Reading.ofChecked_complain_ne_ok] at h

theorem isComplete_of_readNode (h : readNode f v = .ok t) : (view t.label).IsComplete := by
  obtain ⟨r, l, own, hcommon, hown, hlabel⟩ := exists_readCommon_of_readNode h
  have hread := readFrom_of_fields hcommon hown
  have hempty : l.content = none := by
    obtain ⟨_, -, rfl⟩ := Outcome.map_eq_ok_iff.mp hcommon
    rfl
  have hframe : (own l).frame = l.frame := by rw [(readOwn_eq_ok hown hempty).1]
  rw [hlabel]
  refine ⟨⟨_, hread.cls_ne, rfl⟩, ⟨_, hread.id_ne, rfl⟩, ?_⟩
  obtain ⟨width, height, hsides, hwidth, hheight⟩ := hasValidFrame_of_readCommon hcommon
  refine ⟨width, height, ?_, hwidth, hheight⟩
  rw [← hsides]
  simp only [view, hframe]

end Layer

/-! ## Documents that were read -/

namespace Document

variable {d : Document}

theorem isComplete_of_read {r : Keyed Json} (h : read r = .ok d) :
    ∀ l ∈ Tree.preorderAll d.pages, (view l).IsComplete := by
  intro l hl
  rw [← Tree.labels_placesAll] at hl
  obtain ⟨⟨path, _⟩, hmem, rfl⟩ := List.mem_map.mp hl
  have hat := (Tree.mem_placesAll_iff d.pages path _).mp hmem
  cases path with
  | nil => cases hat
  | cons i steps =>
    obtain ⟨u, hu, rfl⟩ := Option.map_eq_some_iff.mp hat
    obtain ⟨t, ht, hu⟩ := Option.bind_eq_some_iff.mp hu
    obtain ⟨v, -, hnode⟩ := Outcome.exists_getElem?_of_forall₂ (read_eq_ok h) ht
    obtain ⟨w, g, -, hread, -⟩ := Layer.exists_readBelow? hnode hu
    exact Layer.isComplete_of_readNode hread

theorem nodup_ids_iff (l : List Layer) :
    (l.map (·.id)).Nodup ↔ l.Pairwise fun a b => (view a).id ≠ (view b).id := by
  rw [List.Nodup, List.pairwise_map]
  constructor
  · intro hdistinct
    exact hdistinct.imp fun hne heq => hne (Json.str.inj heq)
  · intro hdistinct
    exact hdistinct.imp fun hne heq => hne (congrArg Json.str heq)

theorem indexable_iff {l : List Layer} (h : ∀ a ∈ l, (view a).IsComplete) :
    Indexable l ↔ (l.map (·.id)).Nodup := by
  rw [nodup_ids_iff]
  exact ⟨Indexable.distinct, fun hdistinct => ⟨h, hdistinct⟩⟩

theorem nodup_ids_iff_paths (ts : List (Tree Layer)) :
    ((Tree.preorderAll ts).map (·.id)).Nodup ↔ ∀ p q a b, Tree.at? ts p = some a →
      Tree.at? ts q = some b → a.id = b.id → p = q := by
  simp only [← Tree.mem_placesAll_iff]
  rw [← Tree.labels_placesAll, List.map_map,
    List.nodup_map_iff_inj_on (List.Nodup.of_map _ (Tree.nodup_paths_placesAll ts))]
  constructor
  · intro hinj p q a b hp hq hid
    exact congrArg Prod.fst (hinj (p, a) hp (q, b) hq hid)
  · rintro hpaths ⟨p, a⟩ hp ⟨q, b⟩ hq hid
    exact Tree.eq_of_mem_placesAll hp hq (hpaths p q a b hp hq hid)

/-! ## Ids that stand twice -/

/-- In pre-order, the node at `path` is the first one whose id stood before; that was at `earlier`. -/
def RepeatsFirst (ts : List (Tree Layer)) (id : String) (earlier path : List Nat) : Prop :=
  ∃ before after l e, Tree.placesAll ts = before ++ (path, l) :: after ∧
    ((before.map (·.2)).map (·.id)).Nodup ∧ (earlier, e) ∈ before ∧ e.id = id ∧ l.id = id

theorem exists_of_offence {before : List (List Nat × Layer)} {path : List Nat} {l : Layer}
    {g : DocumentFault} (h : Offence before path (view l) g) (hl : (view l).IsComplete) :
    ∃ e ∈ before, e.2.id = l.id ∧ g = .duplicateId l.id (pointerTo e.1) (pointerTo path) := by
  cases h with
  | noClass hcls => exact absurd hl.cls hcls
  | noId _ hid => exact absurd hl.id hid
  | noFrame _ _ hframe => exact absurd hl.frame hframe
  | duplicate _ e hmem hsame => exact ⟨e, hmem, Json.str.inj hsame, rfl⟩

theorem build_eq_error_iff {ts : List (Tree Layer)}
    (h : ∀ l ∈ Tree.preorderAll ts, (view l).IsComplete) (f : Fault) :
    Index.build (some ts) = .error f ↔ ∃ id earlier path, RepeatsFirst ts id earlier path ∧
      f = .document (.duplicateId id (pointerTo earlier) (pointerTo path)) := by
  rw [← Tree.labels_placesAll] at h
  constructor
  · intro hbuild
    have hnot : ¬ Indexable (Tree.preorderAll ts) := by
      intro hindexable
      cases hbuild.symm.trans (Index.build_indexable ts hindexable)
    obtain ⟨before, path, l, after, hsplit, -, hbefore, hfault⟩ := Index.build_unindexable ts hnot
    obtain ⟨g, hoffence, -, herror⟩ := hfault (isPlain_layer l)
    obtain ⟨e, he, hid, rfl⟩ := exists_of_offence hoffence (h l (by rw [hsplit]; simp))
    cases hbuild.symm.trans herror
    exact ⟨l.id, e.1, path, ⟨before, after, l, e.2, hsplit,
      (nodup_ids_iff _).mpr hbefore.distinct, he, hid, rfl⟩, rfl⟩
  · rintro ⟨id, earlier, path, ⟨before, after, l, e, hsplit, hnodup, he, hid, rfl⟩, rfl⟩
    rw [hsplit, List.map_append, List.forall_mem_append] at h
    have hloss : ¬ Indexable (before.map (·.2) ++ [l]) := by
      rw [indexable_append_iff]
      rintro ⟨-, -, hne⟩
      exact hne e (List.mem_map_of_mem he) l (List.mem_singleton_self l) (congrArg Json.str hid)
    obtain ⟨g, hoffence, herror⟩ := Index.build_offence ts before after path l hsplit
      ((indexable_iff h.1).mpr hnodup) hloss (isPlain_layer l)
    obtain ⟨e', he', hid', rfl⟩ := exists_of_offence hoffence (h.2 l List.mem_cons_self)
    -- The ids before are distinct, so the node that the fault names is `e`.
    rw [List.map_map] at hnodup
    obtain rfl := List.inj_on_of_nodup_map hnodup he' he (hid'.trans hid.symm)
    exact herror

/-! ## Documents that were loaded -/

/-- A document that was loaded has no index exactly when two of its nodes have one id, and the fault
is then that of the first node in pre-order whose id stood before. -/
theorem build_of_load {s : Source} {d : Document} (h : load s = .ok d) :
    (∀ l ∈ Tree.preorderAll d.pages, ∀ pointer, (view l).fault? pointer = none) ∧
    ((∃ f, Index.build (some d.pages) = .error f) ↔
      ∃ p q a b, p ≠ q ∧ Tree.at? d.pages p = some a ∧ Tree.at? d.pages q = some b ∧
        a.id = b.id) ∧
    ∀ f, Index.build (some d.pages) = .error f ↔
      ∃ id earlier path, RepeatsFirst d.pages id earlier path ∧
        f = .document (.duplicateId id (pointerTo earlier) (pointerTo path)) := by
  obtain ⟨r, -, hread⟩ := load_eq_ok_iff.mp h
  have hcomplete := isComplete_of_read hread
  refine ⟨fun l hl => NodeView.fault?_complete (hcomplete l hl), ?_, build_eq_error_iff hcomplete⟩
  have hfails : (∃ f, Index.build (some d.pages) = .error f) ↔
      ¬ Indexable (Tree.preorderAll d.pages) := by
    constructor
    · rintro ⟨f, hf⟩ hindexable
      cases hf.symm.trans (Index.build_indexable d.pages hindexable)
    · intro hnot
      cases hbuild : Index.build (some d.pages) with
      | error f => exact ⟨f, rfl⟩
      | ok x => exact absurd (Index.indexable_of_build hbuild).1 hnot
  rw [hfails, indexable_iff hcomplete, nodup_ids_iff_paths]
  constructor
  · intro hnot
    push Not at hnot
    obtain ⟨p, q, a, b, hp, hq, hid, hne⟩ := hnot
    exact ⟨p, q, a, b, hne, hp, hq, hid⟩
  · rintro ⟨p, q, a, b, hne, hp, hq, hid⟩ hpaths
    exact hne (hpaths p q a b hp hq hid)

def rawTwins : Json :=
  rawDocument [rawLayer "_class" (.str "page") "p"
    [rawLayer "_class" (.str "text") "t" [], rawLayer "_class" (.str "text") "t" []]]

theorem build_of_load_rawTwins :
    ∃ d, load (.value rawTwins) = .ok d ∧ (Tree.preorderAll d.pages).length = 3 ∧
      (∀ l ∈ Tree.preorderAll d.pages, ∀ pointer, (view l).fault? pointer = none) ∧
      Index.build (some d.pages) =
        .error (.document (.duplicateId "t" "/pages/0/layers/0" "/pages/0/layers/1")) := by
  have hload : load (.value rawTwins) = .ok _ := rfl
  obtain ⟨hnodes, -, hfault⟩ := build_of_load hload
  refine ⟨_, hload, rfl, hnodes, (hfault _).mpr ⟨"t", [0, 0], [0, 1], ?_, rfl⟩⟩
  exact ⟨[_, _], [], _, _, rfl, by decide, List.mem_cons_of_mem _ List.mem_cons_self, rfl, rfl⟩

end Document

end DesignLint
