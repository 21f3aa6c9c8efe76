import DesignLint.Check.Options
import DesignLint.Proofs.Check.Session

/-! # Checks that judge layers -/

namespace DesignLint

/-! ## Steps of a check -/

namespace Check

variable {c : Context} {s t : Session}

theorem run_bind_eq_ok_iff {α β : Type} {p : Check α} {k : α → Check β} {b : β} :
    (p >>= k).run c s = (.ok b, t) ↔ ∃ a u, p.run c s = (.ok a, u) ∧ (k a).run c u = (.ok b, t) := by
  change (p.andThen k).run c s = _ ↔ _
  rw [run_andThen]
  rcases p.run c s with ⟨f | a, u⟩ <;> simp

theorem run_ofResult_eq_ok_iff {α : Type} {x : Except Fault α} {a : α} :
    (ofResult x).run c s = (.ok a, t) ↔ x = .ok a ∧ s = t := by
  cases x <;> simp [ofResult, run]

theorem run_option_eq_ok_iff {name : String} {v : Json} (hopen : s.closed = false) :
    (option name).run c s = (.ok v, t) ↔ c.options.get name = .ok v ∧ s = t := by
  have hrun : (option name).run c s = (ofResult (c.option s name)).run c s := rfl
  rw [hrun, run_ofResult_eq_ok_iff, Context.option, if_neg (by simp [hopen])]

/-! ## Options -/

theorem options_of_floatOption {name : String} {x : Float} (hopen : s.closed = false)
    (h : (floatOption name).run c s = (.ok x, t)) :
    c.options.get name = .ok (.num (.float x)) ∧ s = t := by
  obtain ⟨v, u, hread, h⟩ := run_bind_eq_ok_iff.mp h
  obtain ⟨hv, rfl⟩ := (run_option_eq_ok_iff hopen).mp hread
  split at h
  · cases h
    exact ⟨hv, rfl⟩
  · cases h

theorem options_of_textOption {name x : String} (hopen : s.closed = false)
    (h : (textOption name).run c s = (.ok x, t)) : c.options.get name = .ok (.str x) ∧ s = t := by
  obtain ⟨v, u, hread, h⟩ := run_bind_eq_ok_iff.mp h
  obtain ⟨hv, rfl⟩ := (run_option_eq_ok_iff hopen).mp hread
  split at h
  · cases h
    exact ⟨hv, rfl⟩
  · cases h

theorem options_of_flagOption {name : String} {b : Bool} (hopen : s.closed = false)
    (h : (flagOption name).run c s = (.ok b, t)) :
    (∃ v, c.options.get name = .ok v ∧ b = v.isGiven) ∧ s = t := by
  obtain ⟨v, u, hread, h⟩ := run_bind_eq_ok_iff.mp h
  obtain ⟨hv, rfl⟩ := (run_option_eq_ok_iff hopen).mp hread
  cases h
  exact ⟨⟨v, hv, rfl⟩, rfl⟩

theorem textsOf_eq_ok {items : List Json} {l : List String} (h : textsOf items = .ok l) :
    items = l.map .str := by
  induction items generalizing l with
  | nil =>
    cases h
    rfl
  | cons v rest ih =>
    cases v with
    | str x =>
      obtain ⟨m, hm, rfl⟩ := Outcome.map_eq_ok_iff.mp h
      rw [ih hm, List.map_cons]
    | _ => cases h

theorem options_of_textsOption {name : String} {l : List String} (hopen : s.closed = false)
    (h : (textsOption name).run c s = (.ok l, t)) :
    c.options.get name = .ok (.texts l) ∧ s = t := by
  obtain ⟨v, u, hread, h⟩ := run_bind_eq_ok_iff.mp h
  obtain ⟨hv, rfl⟩ := (run_option_eq_ok_iff hopen).mp hread
  split at h
  · obtain ⟨hl, rfl⟩ := run_ofResult_eq_ok_iff.mp h
    rw [textsOf_eq_ok hl] at hv
    exact ⟨hv, rfl⟩
  · cases h

/-! ## Options that are there -/

theorem run_bind_of_ok {α β : Type} {p : Check α} {k : α → Check β} {a : α}
    (h : p.run c s = (.ok a, t)) : (p >>= k).run c s = (k a).run c t := by
  change (p.andThen k).run c s = _
  rw [run_andThen, h]

theorem run_bind_of_error {α β : Type} {p : Check α} {k : α → Check β} {f : Fault}
    (h : p.run c s = (.error f, t)) : (p >>= k).run c s = (.error f, t) := by
  change (p.andThen k).run c s = _
  rw [run_andThen, h]

theorem run_ofResult_of_ok {α : Type} {x : Except Fault α} {a : α} (h : x = .ok a) :
    (ofResult x).run c s = (.ok a, s) :=
  run_ofResult_eq_ok_iff.mpr ⟨h, rfl⟩

theorem run_option_of_get {name : String} {v : Json} (hopen : s.closed = false)
    (h : c.options.get name = .ok v) : (option name).run c s = (.ok v, s) :=
  (run_option_eq_ok_iff hopen).mpr ⟨h, rfl⟩

theorem run_floatOption {name : String} {x : Float} (hopen : s.closed = false)
    (h : c.options.get name = .ok (.num (.float x))) : (floatOption name).run c s = (.ok x, s) := by
  rw [floatOption, run_bind_of_ok (run_option_of_get hopen h)]
  rfl

theorem run_textOption {name x : String} (hopen : s.closed = false)
    (h : c.options.get name = .ok (.str x)) : (textOption name).run c s = (.ok x, s) := by
  rw [textOption, run_bind_of_ok (run_option_of_get hopen h)]
  rfl

theorem run_flagOption {name : String} {v : Json} (hopen : s.closed = false)
    (h : c.options.get name = .ok v) : (flagOption name).run c s = (.ok v.isGiven, s) := by
  rw [flagOption, run_bind_of_ok (run_option_of_get hopen h)]
  rfl

theorem textsOf_map_str (l : List String) : textsOf (l.map .str) = .ok l := by
  induction l with
  | nil => rfl
  | cons x rest ih =>
    rw [List.map_cons, textsOf, ih]
    rfl

theorem run_textsOption {name : String} {l : List String} (hopen : s.closed = false)
    (h : c.options.get name = .ok (.texts l)) : (textsOption name).run c s = (.ok l, s) := by
  rw [textsOption, run_bind_of_ok (run_option_of_get hopen h)]
  exact run_ofResult_of_ok (textsOf_map_str l)

end Check

/-! ## Reports about layers -/

def Context.violationOf (c : Context) (l : Layer) (message : String) : Violation where
  rule := c.rule
  message := message
  severity := c.severity
  nodeId := l.id
  nodeName := l.name
  nodeClass := l.cls
  pointer := c.index.pointerOf? (.str l.id)

theorem Context.violation_layer (c : Context) {l : Layer} (hid : l.id ≠ "") (message : String) :
    c.violation (.str message) l.subject .null = .ok (c.violationOf l message) := by
  have hgiven : (Json.str l.id).isGiven = true := by simp [Json.isGiven, hid]
  have hpointer : c.pointerOf (.str l.id) = .ok (c.index.pointerOf? (.str l.id)) := rfl
  have hseverity : c.severityOf .null = .ok c.severity := rfl
  simp only [violation, Layer.subject, Option.filter_some, hgiven, if_true, hpointer, hseverity]
  unfold violationOf
  cases c.severity <;> cases c.index.pointerOf? (.str l.id) <;> rfl

namespace Session

def recordAll (s : Session) (l : List Violation) : Session := l.foldl record s

theorem store_recordAll (s : Session) (l : List Violation) :
    (s.recordAll l).store = s.store ++ l := by
  induction l generalizing s with
  | nil => simp [recordAll]
  | cons v rest ih =>
    have hstep : s.recordAll (v :: rest) = (s.record v).recordAll rest := rfl
    rw [hstep, ih]
    simp [record]

theorem closed_recordAll (s : Session) (l : List Violation) :
    (s.recordAll l).closed = s.closed := by
  induction l generalizing s with
  | nil => rfl
  | cons v rest ih => exact ih (s.record v)

end Session

namespace Check

variable {c : Context} {s t : Session}

theorem run_reportAll {l : Layer} (hid : l.id ≠ "") (hopen : s.closed = false)
    (messages : List String) :
    (reportAll l messages).run c s = (.ok (), s.recordAll (messages.map (c.violationOf l))) := by
  induction messages generalizing s with
  | nil => rfl
  | cons m rest ih =>
    have hreport : c.report s (.str m) l.subject .null =
        (.ok (c.violationOf l m), s.record (c.violationOf l m)) := by
      rw [Context.report, if_neg (by simp [hopen]), Context.violation_layer c hid]
    rw [reportAll, run_andThen, Check.report, run, hreport]
    exact ih hopen

/-! ## Judging layers -/

def said (verdict : Layer → Except Fault (List String)) (l : Layer) : List String :=
  match verdict l with
  | .ok messages => messages
  | .error _ => []

theorem run_judge_eq_ok {verdict : Layer → Except Fault (List String)} {layers : List Layer}
    (hid : ∀ l ∈ layers, l.id ≠ "") (hopen : s.closed = false)
    (h : (judge verdict layers).run c s = (.ok (), t)) :
    (∀ l ∈ layers, verdict l = .ok (said verdict l)) ∧
      t.store = s.store ++ layers.flatMap fun l => (said verdict l).map (c.violationOf l) := by
  induction layers generalizing s with
  | nil =>
    cases h
    simp
  | cons l rest ih =>
    rw [judge, run_andThen] at h
    cases hl : verdict l with
    | error f =>
      rw [hl] at h
      cases h
    | ok messages =>
      have hsaid : said verdict l = messages := by rw [said, hl]
      have hidl : l.id ≠ "" := hid l List.mem_cons_self
      simp only [hl, ofResult, run, run_andThen, run_reportAll hidl hopen] at h
      have hopen' : (s.recordAll (messages.map (c.violationOf l))).closed = false := by
        rw [Session.closed_recordAll, hopen]
      obtain ⟨hall, hstore⟩ := ih (fun l hl => hid l (List.mem_cons_of_mem _ hl)) hopen' h
      refine ⟨List.forall_mem_cons.mpr ⟨by rw [hl, hsaid], hall⟩, ?_⟩
      rw [hstore, Session.store_recordAll, List.flatMap_cons, hsaid, List.append_assoc]

theorem fst_run_judge {verdict : Layer → Except Fault (List String)} {layers : List Layer}
    (hid : ∀ l ∈ layers, l.id ≠ "") (hopen : s.closed = false) :
    ((judge verdict layers).run c s).1 = (layers.mapM verdict).map fun _ => () := by
  induction layers generalizing s with
  | nil => rfl
  | cons l rest ih =>
    rw [judge, run_andThen, List.mapM_cons]
    cases hl : verdict l with
    | error f => rfl
    | ok messages =>
      have hopen' : (s.recordAll (messages.map (c.violationOf l))).closed = false := by
        rw [Session.closed_recordAll, hopen]
      simp only [ofResult, run, run_andThen, run_reportAll (hid l List.mem_cons_self) hopen]
      rw [ih (fun l hl => hid l (List.mem_cons_of_mem _ hl)) hopen']
      cases rest.mapM verdict <;> rfl

/-- The layers that are judged before a verdict fails. -/
def judged (verdict : Layer → Except Fault (List String)) (layers : List Layer) : List Layer :=
  layers.takeWhile fun l => (verdict l).isOk

theorem judged_congr {verdict verdict' : Layer → Except Fault (List String)}
    (h : ∀ l, (verdict' l).isOk = (verdict l).isOk) (layers : List Layer) :
    judged verdict' layers = judged verdict layers := by
  simp only [judged, h]

theorem verdict_of_mem_judged {verdict : Layer → Except Fault (List String)} {layers : List Layer}
    {l : Layer} (h : l ∈ judged verdict layers) : verdict l = .ok (said verdict l) := by
  obtain ⟨messages, hmessages⟩ := Outcome.exists_of_isOk (List.all_eq_true.mp List.all_takeWhile l h)
  rw [said, hmessages]

/-- Whether or not a verdict fails in the end, what was said before it stays. -/
theorem store_run_judge {verdict : Layer → Except Fault (List String)} {layers : List Layer}
    (hid : ∀ l ∈ layers, l.id ≠ "") (hopen : s.closed = false) :
    ((judge verdict layers).run c s).2.store =
      s.store ++ (judged verdict layers).flatMap fun l =>
        (said verdict l).map (c.violationOf l) := by
  induction layers generalizing s with
  | nil => simp [judged, judge, run]
  | cons l rest ih =>
    rw [judge, run_andThen, judged, List.takeWhile_cons]
    cases hl : verdict l with
    | error f => simp [ofResult, run, Except.isOk, Except.toBool]
    | ok messages =>
      have hsaid : said verdict l = messages := by rw [said, hl]
      have hopen' : (s.recordAll (messages.map (c.violationOf l))).closed = false := by
        rw [Session.closed_recordAll, hopen]
      simp only [ofResult, run, run_andThen, run_reportAll (hid l List.mem_cons_self) hopen]
      rw [ih (fun l hl => hid l (List.mem_cons_of_mem _ hl)) hopen', Session.store_recordAll,
        List.append_assoc]
      simp [judged, Except.isOk, Except.toBool, hsaid]

/-- The messages are one if something is flagged, and else none. -/
def SaysOnce (flagged : Prop) (messages : List String) : Prop :=
  (flagged ∧ ∃ m, messages = [m]) ∨ (¬ flagged ∧ messages = [])

theorem flatMap_said {verdict : Layer → Except Fault (List String)} {flags : Layer → Prop}
    [DecidablePred flags] {layers : List Layer}
    (hflags : ∀ l messages, verdict l = .ok messages → SaysOnce (flags l) messages)
    (hall : ∀ l ∈ layers, verdict l = .ok (said verdict l)) (c : Context) :
    (layers.flatMap fun l => (said verdict l).map (c.violationOf l)) =
      (layers.filter fun l => flags l).map fun l =>
        c.violationOf l ((said verdict l).headD "") := by
  induction layers with
  | nil => rfl
  | cons l rest ih =>
    obtain ⟨hl, hrest⟩ := List.forall_mem_cons.mp hall
    have hsaid := hflags l _ hl
    rw [List.flatMap_cons, List.filter_cons, ih hrest]
    rcases hsaid with ⟨hf, m, hm⟩ | ⟨hf, hm⟩
    · simp [hf, hm]
    · simp [hf, hm]

open Classical in
theorem nodeIds_said_sublist {verdict verdict' : Layer → Except Fault (List String)}
    {flags flags' : Layer → Prop} {layers : List Layer}
    (hflags : ∀ l messages, verdict l = .ok messages → SaysOnce (flags l) messages)
    (hflags' : ∀ l messages, verdict' l = .ok messages → SaysOnce (flags' l) messages)
    (hall : ∀ l ∈ layers, verdict l = .ok (said verdict l))
    (hall' : ∀ l ∈ layers, verdict' l = .ok (said verdict' l)) (hless : ∀ l, flags' l → flags l)
    (c c' : Context) :
    ((layers.flatMap fun l => (said verdict' l).map (c'.violationOf l)).map (·.nodeId)).Sublist
      ((layers.flatMap fun l => (said verdict l).map (c.violationOf l)).map (·.nodeId)) := by
  have hids : ∀ (x : Context) (message : Layer → String) (kept : List Layer),
      (kept.map fun l => x.violationOf l (message l)).map (·.nodeId) = kept.map (·.id) := by
    intro x message kept
    rw [List.map_map]
    rfl
  rw [flatMap_said hflags hall, flatMap_said hflags' hall', hids, hids]
  refine (List.monotone_filter_right layers fun l hl => ?_).map _
  exact decide_eq_true (hless l (of_decide_eq_true hl))

theorem run_judge_flagged {verdict : Layer → Except Fault (List String)} {flags : Layer → Prop}
    [DecidablePred flags] {layers : List Layer}
    (hflags : ∀ l messages, verdict l = .ok messages → SaysOnce (flags l) messages)
    (hid : ∀ l ∈ layers, l.id ≠ "") (hopen : s.closed = false)
    (h : (judge verdict layers).run c s = (.ok (), t)) :
    ∃ message : Layer → String, t.store =
      s.store ++ (layers.filter fun l => flags l).map fun l => c.violationOf l (message l) := by
  obtain ⟨hall, hstore⟩ := run_judge_eq_ok hid hopen h
  exact ⟨_, by rw [hstore, flatMap_said hflags hall]⟩

end Check

end DesignLint
