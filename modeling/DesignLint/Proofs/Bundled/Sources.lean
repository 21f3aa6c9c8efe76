import DesignLint.Proofs.Bundled.Defaults
import DesignLint.Proofs.Document.Contents
import DesignLint.Proofs.Document.Pointer
import DesignLint.Proofs.Run.Invoked

/-! # The sources of violations -/

namespace DesignLint.Bundled

/-! ## What the rules report -/

def IsAboutNode (c : Context) (a : Accepted) : Prop :=
  ∃ k l message, l ∈ c.index.nodes k ∧ a.message = .str message ∧ a.subject = l.subject ∧
    a.severity = .null

section

open Check

variable {c : Context} {k : Kind} {l : Layer}

theorem reportAll_reportsOnly (hl : l ∈ c.index.nodes k) (messages : List String) :
    ReportsOnly c (IsAboutNode c) (reportAll l messages) := by
  induction messages with
  | nil => exact ReportsOnly.ofResult (.ok ())
  | cons m rest ih =>
    have hfirst : ReportsOnly c (IsAboutNode c) (Check.report (.str m) l.subject .null) :=
      ReportsOnly.report fun _ _ => ⟨k, l, m, hl, rfl, rfl, rfl⟩
    exact hfirst.andThen fun _ => ih

theorem judge_reportsOnly (verdict : Layer → Except Fault (List String)) {layers : List Layer}
    (hlayers : ∀ l ∈ layers, l ∈ c.index.nodes k) :
    ReportsOnly c (IsAboutNode c) (judge verdict layers) := by
  induction layers with
  | nil => exact ReportsOnly.ofResult (.ok ())
  | cons l rest ih =>
    obtain ⟨hl, hrest⟩ := List.forall_mem_cons.mp hlayers
    refine (ReportsOnly.ofResult (verdict l)).andThen fun messages => ?_
    exact (reportAll_reportsOnly hl messages).andThen fun _ => ih hrest

theorem judgeNodes_reportsOnly (verdict : Layer → Except Fault (List String)) (k : Kind) :
    ReportsOnly c (IsAboutNode c) (objects >>= fun x => judge verdict (x.nodes k)) :=
  ReportsOnly.objects_bind (judge_reportsOnly verdict fun _ hl => hl)

theorem reportsOnly_of_mem {rule : Rule} (h : rule ∈ rules) :
    ReportsOnly c (IsAboutNode c) rule.check := by
  simp only [rules, List.mem_cons, List.not_mem_nil, or_false] at h
  rcases h with rfl | rfl | rfl | rfl | rfl | rfl | rfl
  · refine (ReportsOnly.flagOption _).andThen fun exceeding => ?_
    refine (ReportsOnly.textsOption _).andThen fun texts => ?_
    exact (ReportsOnly.ofResult _).andThen fun sizes => judgeNodes_reportsOnly _ _
  · refine (ReportsOnly.floatOption _).andThen fun least => ?_
    refine (ReportsOnly.textOption _).andThen fun text => ?_
    exact (ReportsOnly.ofResult _).andThen fun pattern => judgeNodes_reportsOnly _ _
  · exact (ReportsOnly.floatOption _).andThen fun least => judgeNodes_reportsOnly _ _
  · exact (ReportsOnly.option _).andThen fun family => judgeNodes_reportsOnly _ _
  · exact (ReportsOnly.option _).andThen fun family => judgeNodes_reportsOnly _ _
  · exact (ReportsOnly.textsOption _).andThen fun allowed => judgeNodes_reportsOnly _ _
  · exact judgeNodes_reportsOnly _ _

end

/-! ## Nodes of violations -/

/-- A violation of a node of a document, with the path of the node. -/
def IsOfNode (d : Document) (path : List Nat) (l : Layer) (v : Violation) : Prop :=
  Tree.at? d.pages path = some l ∧ v.pointer = some (pointerTo path) ∧
    v.nodeId = l.id ∧ v.nodeClass = l.cls ∧ v.nodeName = l.name

theorem exists_isOfNode {d : Document} {c : Context} {a : Accepted}
    (hbuild : Index.build (some d.pages) = .ok c.index) (ha : IsAboutNode c a)
    (hviolation : c.violation a.message a.subject a.severity = .ok a.violation) :
    ∃ path l, IsOfNode d path l a.violation := by
  obtain ⟨k, l, message, hl, hmessage, hsubject, hseverity⟩ := ha
  have hmade : a.violation = c.violationOf l message := by
    rw [hmessage, hsubject, hseverity,
      Context.violation_layer c (Index.id_ne_of_build hbuild k l hl) message] at hviolation
    exact (Except.ok.inj hviolation).symm
  rw [Index.nodes_of_build hbuild, ← Tree.labels_placesAll] at hl
  obtain ⟨⟨path, l⟩, hplace, rfl⟩ := List.mem_map.mp (List.mem_of_mem_filter hl)
  refine ⟨path, l, (Tree.mem_placesAll_iff _ _ _).mp hplace, ?_, ?_⟩
  · rw [hmade]
    exact Index.pointerOf?_of_build hbuild hplace
  · rw [hmade]
    exact ⟨rfl, rfl, rfl⟩

theorem isOfNode_of_runLoaded {r : Runner} {loaded : Except Fault Document} {given : List Rule}
    {configs : Keyed ConfigInput} {report : RunReport} (hgiven : ∀ rule ∈ given, rule ∈ rules)
    (hreport : r.runLoaded loaded given configs = .ok report) :
    ∃ d x, loaded = .ok d ∧ Index.build (some d.pages) = .ok x ∧
      ∀ v ∈ report.result.violations, ∃ path l, IsOfNode d path l v := by
  obtain ⟨-, d, x, runs, hd, hbuild, hruns, hresult⟩ :=
    Runner.exists_runs_of_runLoaded r loaded configs hreport
  refine ⟨d, x, hd, hbuild, fun v hv => ?_⟩
  rw [hresult] at hv
  obtain ⟨o, ho, hown⟩ := List.mem_flatMap.mp hv
  obtain ⟨rule, hrule, hsolo⟩ := Outcome.exists_of_mem_mapM hruns ho
  obtain ⟨config, c, hc⟩ := Runner.exists_invokes_of_own hsolo (List.ne_nil_of_mem hown)
  rw [hc.own_eq hsolo] at hown
  obtain ⟨a, ha, rfl⟩ := List.mem_map.mp hown
  exact exists_isOfNode (by rw [hc.index_eq]; exact hbuild)
    (reportsOnly_of_mem (hgiven rule hrule) _ a ha) (Check.violation_of_accepted ha)

/-! ## Sources of violations -/

/-- The node of a violation has its id, class and name from the fields of an object. -/
structure HasSource (fields : Keyed Json) (v : Violation) : Prop where
  id : (fields.get? "do_objectID").or (fields.get? "object_id") = some (.str v.nodeId)
  cls : (fields.get? "_class").or (fields.get? "class_") = some (.str v.nodeClass)
  name : (fields.get? "name").getD (.str "") = .str v.nodeName

theorem or_eq_some_of_first? {fields : Keyed Json} {j k : String} {v : Json}
    (h : ∃ i, fields.first? [j, k] = some (i, v)) :
    (fields.get? j).or (fields.get? k) = some v := by
  obtain ⟨i, h⟩ := h
  cases hj : fields.get? j with
  | some w =>
    simp only [Keyed.first?, hj, Option.some.injEq, Prod.mk.injEq] at h
    rw [Option.some_or, h.2]
  | none =>
    cases hk : fields.get? k with
    | some w =>
      simp only [Keyed.first?, hj, hk, Option.some.injEq, Prod.mk.injEq] at h
      rw [Option.none_or, h.2]
    | none => simp [Keyed.first?, hj, hk] at h

theorem hasSource_of_readFrom {f : Form} {fields : Keyed Json} {l : Layer} {v : Violation}
    (h : l.ReadFrom f fields) (hid : v.nodeId = l.id) (hcls : v.nodeClass = l.cls)
    (hname : v.nodeName = l.name) : HasSource fields v where
  id := by rw [hid]; exact or_eq_some_of_first? h.id
  cls := by rw [hcls]; exact or_eq_some_of_first? h.cls
  name := by rw [hname]; exact h.name

/-- Every violation of bundled rules has the pointer of its node, which leads in the raw document to
the object with the id, the class and the name that the violation tells. No two nodes have one
pointer. -/
theorem sources_of_violations {r : Runner} {source : Document.Source} {given : List Rule}
    {configs : Keyed ConfigInput} {report : RunReport} (hgiven : ∀ rule ∈ given, rule ∈ rules)
    (hreport : r.run source given configs = .ok report) :
    ∃ raw d x, Document.contents source = .ok raw ∧ Document.load source = .ok d ∧
      Index.build (some d.pages) = .ok x ∧
      (∀ v ∈ report.result.violations, ∃ path l pointer fields f,
        Tree.at? d.pages path = some l ∧ v.pointer = some pointer ∧
        (Json.obj raw).resolve? pointer = some (.obj fields) ∧
        (Json.obj raw).readAt? path = some (.obj fields) ∧ l.ReadFrom f fields ∧
        HasSource fields v) ∧
      ∀ p q l m, Tree.at? d.pages p = some l → Tree.at? d.pages q = some m →
        x.pointerOf? (.str l.id) = x.pointerOf? (.str m.id) → p = q := by
  obtain ⟨d, x, hd, hbuild, hnodes⟩ := isOfNode_of_runLoaded hgiven hreport
  obtain ⟨raw, hraw, hread⟩ := Document.load_eq_ok_iff.mp hd
  refine ⟨raw, d, x, hraw, hd, hbuild, fun v hv => ?_, fun p q l m hp hq hsame => ?_⟩
  · obtain ⟨path, l, hat, hpointer, hid, hcls, hname⟩ := hnodes v hv
    obtain ⟨fields, f, hfields, hfrom, -⟩ := Document.readAt?_of_at? hread hat
    have hlayer := (Json.readAt?_eq_some_iff.mp hfields).1
    exact ⟨path, l, pointerTo path, fields, f, hat, hpointer, Json.resolve?_pointerTo hlayer,
      hfields, hfrom, hasSource_of_readFrom hfrom hid hcls hname⟩
  · have hp' := (Tree.mem_placesAll_iff _ _ _).mpr hp
    have hq' := (Tree.mem_placesAll_iff _ _ _).mpr hq
    have hpointers := (Index.pointerOf?_of_build hbuild hp').symm.trans
      (hsame.trans (Index.pointerOf?_of_build hbuild hq'))
    exact Json.eq_of_pointerTo (Tree.ne_nil_of_mem_placesFrom hp')
      (Tree.ne_nil_of_mem_placesFrom hq') (Option.some.inj hpointers)

/-! ## An ellipsis in a wrapped document -/

def rawText (text : String) : Json :=
  .obj [("_class", .str "text"), ("object_id", .str "t"), ("name", .str "Label"),
    ("frame", .obj [("width", .whole 100), ("height", .whole 20)]),
    ("attributedString", .obj [("string", .str text)])]

def rawWrapped (text : String) : Json :=
  .obj [("document", Document.rawDocument [Document.rawLayer "_class" (.str "page") "p"
    [Document.rawLayer "class_" (.str "group") "g" [], rawText text]])]

theorem sources_of_violations_rawWrapped :
    ∃ report v raw, (∀ rule ∈ [Ellipsis.rule], rule ∈ rules) ∧
      Runner.run ⟨.warn⟩ (.value (rawWrapped "Read more…")) [Ellipsis.rule] Runner.sampleConfigs =
        .ok report ∧
      Document.contents (.value (rawWrapped "Read more…")) = .ok raw ∧
      report.result.violations = [v] ∧ v.pointer = some "/pages/0/layers/1" ∧
      ∃ fields, (Json.obj raw).resolve? "/pages/0/layers/1" = some (.obj fields) ∧
        HasSource fields v := by
  have hgiven : ∀ rule ∈ [Ellipsis.rule], rule ∈ rules := by simp [rules]
  have hreport : Runner.run ⟨.warn⟩ (.value (rawWrapped "Read more…")) [Ellipsis.rule]
      Runner.sampleConfigs = .ok _ := rfl
  obtain ⟨raw, d, x, hraw, -, -, hsources, -⟩ := sources_of_violations hgiven hreport
  obtain ⟨path, l, pointer, fields, f, -, hpointer, hresolve, -, -, hsource⟩ :=
    hsources _ List.mem_cons_self
  cases hpointer
  exact ⟨_, _, raw, hgiven, hreport, hraw, rfl, rfl, fields, hresolve, hsource⟩

end DesignLint.Bundled
