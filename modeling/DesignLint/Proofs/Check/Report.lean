import DesignLint.Proofs.Field
import DesignLint.Proofs.Index.Build
import DesignLint.Proofs.RuleOption.Config
import DesignLint.Proofs.Run.Faults
import DesignLint.Proofs.Run.Settled

/-! # Reports -/

namespace DesignLint

/-! ## What a violation says -/

theorem Severity.ofJson_eq_ok_iff {v : Json} {x : Severity} : ofJson v = .ok x ↔ v = .str x.name := by
  constructor
  · intro h
    cases v with
    | str s =>
      rw [Json.str.injEq, ← lookup_names_iff]
      simp only [ofJson] at h
      split at h
      · rename_i y hlookup
        rw [hlookup, Except.ok.inj h]
      · cases h
    | _ => cases h
  · rintro rfl
    exact ofJson_name x

theorem Violation.ofRecord_eq_ok_iff {rule : String} {message id name cls : Json}
    {severity : Severity} {pointer : Option String} {v : Violation} :
    ofRecord [("rule_name", .str rule), ("message", message), ("severity", .str severity.name),
        ("node_id", id), ("node_name", name), ("node_class", cls),
        ("pointer", (pointer.map Json.str).getD .null)] = .ok v ↔
      v.rule = rule ∧ message = .str v.message ∧ v.severity = severity ∧ id = .str v.nodeId ∧
        name = .str v.nodeName ∧ cls = .str v.nodeClass ∧ v.pointer = pointer := by
  have hpointer : ∀ {w : Json} {o : Option String},
      Field.optional Field.text w = .ok o ↔ w = (o.map .str).getD .null :=
    Field.optional_eq_ok_iff Field.text_eq_ok_iff (by simp)
  have hspelled : ∀ {p q : Option String},
      (p.map Json.str).getD .null = (q.map Json.str).getD .null ↔ q = p := by
    intro p q
    cases p <;> cases q <;> simp [eq_comm]
  have hseverity : ∀ {x : Severity}, severity.name = x.name ↔ x = severity := by
    intro x
    cases severity <;> cases x <;> decide
  rw [ofRecord, Outcome.mapError_eq_ok_iff, ofFields, Outcome.map_eq_ok_iff]
  simp only [Field.required, Field.defaulted, Keyed.first?, Keyed.get?_cons, String.reduceEq,
    if_true, if_false, Outcome.both_eq_ok_iff, Prod.exists, Checked.within,
    Outcome.mapError_eq_ok_iff, Field.text_eq_ok_iff, Field.severity_eq_ok_iff, hpointer, hspelled,
    Json.str.injEq, hseverity]
  constructor
  · rintro ⟨_, _, _, _, _, _, _, ⟨rfl, rfl, rfl, rfl, rfl, rfl, rfl⟩, rfl⟩
    exact ⟨rfl, rfl, rfl, rfl, rfl, rfl, rfl⟩
  · rintro ⟨rfl, rfl, rfl, rfl, rfl, rfl, rfl⟩
    exact ⟨_, _, _, _, _, _, _, ⟨rfl, rfl, rfl, rfl, rfl, rfl, rfl⟩, rfl⟩

/-- A violation tells a report: it is of the rule of the context, and it has the message, what the
subject says of itself, and the pointer under which the id is indexed, if it is. -/
structure Context.Tells (c : Context) (message : Json) (subject : Subject) (severity : Json)
    (v : Violation) : Prop where
  rule : v.rule = c.rule
  message : message = .str v.message
  given : severity.isGiven = true → severity = .str v.severity.name
  fallback : severity.isGiven = false → v.severity = c.severity
  id : subject.id = some (.str v.nodeId)
  id_ne : v.nodeId ≠ ""
  name : subject.name.getD (.str "") = .str v.nodeName
  cls : subject.cls.getD (.str "") = .str v.nodeClass
  pointer : v.pointer = c.index.pointerOf? (.str v.nodeId)

namespace Context

variable {c : Context} {message severity : Json} {subject : Subject} {v : Violation} {s : Session}

theorem severityOf_eq_ok_iff {x : Severity} : c.severityOf severity = .ok x ↔
    (severity.isGiven = true → severity = .str x.name) ∧
      (severity.isGiven = false → x = c.severity) := by
  unfold severityOf
  cases severity.isGiven with
  | true => simp [Severity.ofJson_eq_ok_iff]
  | false => simp [eq_comm]

theorem violation_eq_ok_iff :
    c.violation message subject severity = .ok v ↔ c.Tells message subject severity v := by
  unfold violation
  split
  · rename_i hnone
    simp only [reduceCtorEq, false_iff]
    intro h
    have hgiven : (Json.str v.nodeId).isGiven = true := (NodeView.isGiven_text_iff _).mpr h.id_ne
    simp [h.id, hgiven] at hnone
  · rename_i id hsome
    obtain ⟨hid, hgiven⟩ := Option.filter_eq_some_iff.mp hsome
    simp only [Outcome.bind_eq_ok_iff, severityOf_eq_ok_iff, Violation.ofRecord_eq_ok_iff]
    constructor
    · rintro ⟨x, ⟨hnamed, hdefault⟩, pointer, hpointer, hrule, hmessage, rfl, rfl, hname, hcls, rfl⟩
      have hne : v.nodeId ≠ "" := (NodeView.isGiven_text_iff _).mp hgiven
      exact ⟨hrule, hmessage, hnamed, hdefault, hid, hne, hname, hcls,
        (Except.ok.inj hpointer).symm⟩
    · intro h
      have hsame : id = .str v.nodeId := Option.some.inj (hid.symm.trans h.id)
      refine ⟨v.severity, ⟨h.given, h.fallback⟩, v.pointer, ?_, h.rule, h.message, rfl, hsame,
        h.name, h.cls, rfl⟩
      rw [hsame, h.pointer]
      rfl

/-! ## One report -/

theorem report_cases (c : Context) (s : Session) (message : Json) (subject : Subject)
    (severity : Json) :
    (∃ f, c.report s message subject severity = (.error f, s)) ∨
      ∃ v, c.report s message subject severity = (.ok v, s.record v) ∧ s.closed = false ∧
        c.Tells message subject severity v := by
  unfold report
  cases hclosed : s.closed with
  | true => exact .inl ⟨_, rfl⟩
  | false =>
    cases hviolation : c.violation message subject severity with
    | error f => exact .inl ⟨f, rfl⟩
    | ok v => exact .inr ⟨v, rfl, rfl, violation_eq_ok_iff.mp hviolation⟩

/-- A report is accepted exactly when the context is open and a violation can tell it. -/
theorem exists_report_eq_ok_iff : (∃ v t, c.report s message subject severity = (.ok v, t)) ↔
    s.closed = false ∧ ∃ v, c.Tells message subject severity v := by
  constructor
  · rintro ⟨v, t, h⟩
    rcases c.report_cases s message subject severity with ⟨f, hf⟩ | ⟨w, -, hopen, hw⟩
    · cases hf.symm.trans h
    · exact ⟨hopen, w, hw⟩
  · rintro ⟨hopen, v, hv⟩
    refine ⟨v, s.record v, ?_⟩
    rw [report, if_neg (by simp [hopen]), violation_eq_ok_iff.mpr hv]

end Context

/-! ## The pointer of an id -/

theorem Index.pointerOf?_eq_some_iff {ts : List (Tree Layer)} {x : Index Layer}
    (h : Index.build (some ts) = .ok x) {id pointer : String} :
    x.pointerOf? (.str id) = some pointer ↔
      ∃ path l, Tree.at? ts path = some l ∧ l.id = id ∧ pointer = pointerTo path := by
  constructor
  · intro hpointer
    obtain ⟨-, rfl⟩ := indexable_of_build h
    rw [pointerOf?, Walk.visits_index_after] at hpointer
    obtain ⟨visit, hvisit, rfl⟩ := Option.map_eq_some_iff.mp hpointer
    obtain ⟨e, he, rfl⟩ := List.mem_map.mp (List.mem_of_find?_eq_some hvisit)
    have hid : (Json.str e.2.id).isSameKey (.str id) = true :=
      List.find?_some (p := fun v : Visit Layer => (view v.node).id.isSameKey (.str id)) hvisit
    exact ⟨e.1, e.2, (Tree.mem_placesAll_iff ts _ _).mp he, by simpa [Json.isSameKey] using hid, rfl⟩
  · rintro ⟨path, l, hpath, rfl, rfl⟩
    exact pointerOf?_of_build h (e := (path, l)) ((Tree.mem_placesAll_iff ts _ _).mpr hpath)

/-! ## Many operations -/

namespace Context

/-- The session after operations, whatever they answer. -/
def after (c : Context) (ops : List Operation) (s : Session) : Session :=
  ((Operation.checkAll ops).run c s).2

theorem exists_run_check (c : Context) (s : Session) (op : Operation) :
    ∃ answer t, op.check.run c s = (.ok answer, t) := by
  cases op <;> exact ⟨_, _, rfl⟩

theorem after_cons (c : Context) (op : Operation) (rest : List Operation) (s : Session) :
    c.after (op :: rest) s = c.after rest (op.check.run c s).2 := by
  obtain ⟨answer, t, hop⟩ := c.exists_run_check s op
  rw [after, after, Operation.checkAll, Check.run_andThen, hop]
  dsimp only
  rw [Check.run_andThen]
  rcases (Operation.checkAll rest).run c t with ⟨f | answers, u⟩ <;> rfl

theorem after_append (c : Context) (before later : List Operation) (s : Session) :
    c.after (before ++ later) s = c.after later (c.after before s) := by
  induction before generalizing s with
  | nil => rfl
  | cons op rest ih => rw [List.cons_append, after_cons, ih, after_cons]

theorem after_grows (c : Context) (ops : List Operation) (s : Session) :
    ∃ own, Session.Grows c.rule s (c.after ops s) own :=
  Check.run_grows c (Operation.checkAll ops) s

/-! ## The law -/

/-- A report fails and changes nothing, or it adds one violation at the end of the store and counts
it. Whatever is done with a context, it has counted all that it stored. -/
theorem report_atomic_and_counted (c : Context) :
    (∀ s message subject severity,
      (∃ f, c.report s message subject severity = (.error f, s)) ∨
        ∃ v t, c.report s message subject severity = (.ok v, t) ∧ t.store = s.store ++ [v] ∧
          t.reported = s.reported + 1 ∧ t.closed = s.closed ∧ c.Tells message subject severity v) ∧
    (∀ s message subject severity, (∃ v t, c.report s message subject severity = (.ok v, t)) ↔
      s.closed = false ∧ ∃ v, c.Tells message subject severity v) ∧
    (∀ ts, Index.build (some ts) = .ok c.index → ∀ id pointer,
      c.index.pointerOf? (.str id) = some pointer ↔
        ∃ path l, Tree.at? ts path = some l ∧ l.id = id ∧ pointer = pointerTo path) ∧
    (∀ ops, (c.after ops (.start [])).reported = (c.after ops (.start [])).store.length) ∧
    ∀ before later s, (c.after before s).store <+: (c.after (before ++ later) s).store := by
  refine ⟨fun s message subject severity => ?_, fun s message subject severity =>
    exists_report_eq_ok_iff, fun ts hindex id pointer => Index.pointerOf?_eq_some_iff hindex,
    fun ops => ?_, fun before later s => ?_⟩
  · rcases c.report_cases s message subject severity with hfailed | ⟨v, hv, -, htells⟩
    · exact .inl hfailed
    · exact .inr ⟨v, _, hv, rfl, rfl, rfl, htells⟩
  · obtain ⟨own, hown⟩ := c.after_grows ops (.start [])
    have hstore : (c.after ops (.start [])).store = own := hown.store
    have hreported := hown.reported
    rw [hreported, hstore]
    exact Nat.zero_add _
  · obtain ⟨own, hown⟩ := c.after_grows later (c.after before s)
    rw [after_append, hown.store]
    exact List.prefix_append _ _

def sampleOperations : List Operation :=
  [.report (.str "first") Runner.sampleText.subject (.str "error"),
    .report (.str "second") Runner.sampleText.subject (.str "loud"),
    .report (.str "third") .nothing .null, .close,
    .report (.str "late") Runner.sampleText.subject .null]

theorem report_atomic_and_counted_sample :
    ∃ c : Context, Index.build (some Runner.sampleDocument.pages) = .ok c.index ∧
      c.index.pointerOf? (.str "t") = some "/pages/0/layers/0" ∧
      (c.after sampleOperations (.start [])).reported =
        (c.after sampleOperations (.start [])).store.length ∧
      (c.after sampleOperations (.start [])).store =
        [⟨"broken", "first", .error, "t", "Label", "text", some "/pages/0/layers/0"⟩] := by
  let c := Runner.contextOf ⟨.warn⟩ Runner.sampleIndex Runner.brokenRule ⟨true, none, none, []⟩
    ⟨"broken", [], []⟩
  obtain ⟨-, -, hpointer, hcounted, -⟩ := report_atomic_and_counted c
  have htext : Tree.at? Runner.sampleDocument.pages [0, 0] = some Runner.sampleText := rfl
  exact ⟨c, Runner.build_sampleDocument,
    (hpointer _ Runner.build_sampleDocument "t" _).mpr ⟨[0, 0], _, htext, rfl, by decide⟩,
    hcounted sampleOperations, rfl⟩

end Context

end DesignLint
