import DesignLint.Proofs.Bundled.Criteria
import DesignLint.Proofs.Document.Contents
import DesignLint.Proofs.Run.Faults

/-! # The bundled rules under their defaults -/

namespace DesignLint

/-! ## Checks that judge -/

/-- When its options give parameters of a criterion, the check of a rule is to judge by a verdict. -/
def Criterion.Judges (c : Criterion)
    (verdict : c.Parameters → Layer → Except Fault (List String)) : Prop :=
  ∀ {x : Context} {s : Session} {p : c.Parameters}, s.closed = false → c.Reads x.options p →
    c.rule.check.run x s = (Check.judge (verdict p) (x.index.nodes c.kind)).run x s

namespace Bundled

open Check

theorem artboard_judges :
    artboardCriterion.Judges fun (exceeding, sizes) => ArtboardSize.verdict exceeding sizes := by
  rintro x s ⟨exceeding, sizes⟩ hopen ⟨⟨v, hv, rfl⟩, texts, htexts, hsizes⟩
  change ArtboardSize.check.run x s = _
  rw [ArtboardSize.check, run_bind_of_ok (run_flagOption hopen hv),
    run_bind_of_ok (run_textsOption hopen htexts), run_bind_of_ok (run_ofResult_of_ok hsizes)]
  rfl

theorem symbol_judges :
    symbolCriterion.Judges fun (least, pattern) => TapTarget.Symbol.verdict least pattern := by
  rintro x s ⟨least, pattern⟩ hopen ⟨hleast, text, htext, hpattern⟩
  change TapTarget.Symbol.check.run x s = _
  rw [TapTarget.Symbol.check, run_bind_of_ok (run_floatOption hopen hleast),
    run_bind_of_ok (run_textOption hopen htext), run_bind_of_ok (run_ofResult_of_ok hpattern)]
  rfl

theorem interactive_judges : interactiveCriterion.Judges TapTarget.Interactive.verdict := by
  intro x s least hopen hleast
  change TapTarget.Interactive.check.run x s = _
  rw [TapTarget.Interactive.check, run_bind_of_ok (run_floatOption hopen hleast)]
  rfl

theorem run_checkFonts {complaints : Font → List String} {x : Context} {s : Session}
    (hopen : s.closed = false) (h : NamesFamily x.options ()) :
    (OpticalSize.checkFonts complaints).run x s =
      (judge (fun l => (textFont l).map complaints) (x.index.nodes .text)).run x s := by
  obtain ⟨v, hv⟩ := h
  rw [OpticalSize.checkFonts, run_bind_of_ok (run_option_of_get hopen hv)]
  rfl

theorem sanFrancisco_judges : sanFranciscoCriterion.Judges fun _ l =>
    (textFont l).map OpticalSize.SanFrancisco.complaints :=
  run_checkFonts

theorem newYork_judges : newYorkCriterion.Judges fun _ l =>
    (textFont l).map OpticalSize.NewYork.complaints :=
  run_checkFonts

theorem weight_judges : weightCriterion.Judges FontWeight.verdict := by
  intro x s allowed hopen hallowed
  change FontWeight.check.run x s = _
  rw [FontWeight.check, run_bind_of_ok (run_textsOption hopen hallowed)]
  rfl

theorem ellipsis_judges : ellipsisCriterion.Judges fun _ => Ellipsis.verdict := by
  intro x s p hopen hreads
  rfl

end Bundled

/-! ## Rules that start -/

namespace Runner

/-- A rule is active under configurations, and its options have these values. -/
structure Starts (configs : Keyed ConfigInput) (rule : Rule) (values : OptionValues) : Prop where
  config : ∃ given config schema, configOf configs rule.name = some given ∧
    RuleConfig.coerce rule.name given = .ok config ∧ config.active = true ∧
    Schema.compile rule.name rule.options = .ok schema ∧
    OptionValues.check rule.name rule.options schema config = .ok values

variable {configs : Keyed ConfigInput} {rule : Rule} {values : OptionValues} {index : Index Layer}

theorem Starts.isAttempted (h : Starts configs rule values) : isAttempted configs rule = true := by
  obtain ⟨given, config, schema, hgiven, hconfig, hactive, -, -⟩ := h
  simp [Runner.isAttempted, hgiven, hconfig, hactive]

theorem Starts.mishap?_eq (r : Runner) (index : Index Layer) (h : Starts configs rule values) :
    ∃ x : Context, x.index = index ∧ x.options = values ∧ r.mishap? index configs rule =
      match (rule.check.run x (Session.start [])).1 with
      | .error f => some (.check, f)
      | .ok () => none := by
  obtain ⟨given, config, schema, hgiven, hconfig, hactive, hschema, hvalues⟩ := h
  refine ⟨contextOf r index rule config values, rfl, rfl, ?_⟩
  cases hrun : (rule.check.run (contextOf r index rule config values) (Session.start [])).1 with
  | error f => simp only [mishap?, hgiven, hconfig, hactive, hschema, hvalues, hrun, if_true]
  | ok u => simp only [mishap?, hgiven, hconfig, hactive, hschema, hvalues, hrun, if_true]

theorem Starts.mishap?_judges {c : Criterion} {p : c.Parameters}
    {verdict : c.Parameters → Layer → Except Fault (List String)} (r : Runner)
    (h : Starts configs c.rule values) (hjudges : c.Judges verdict) (hp : c.Reads values p)
    (hid : ∀ l ∈ index.nodes c.kind, l.id ≠ "") :
    r.mishap? index configs c.rule =
      match (index.nodes c.kind).mapM (verdict p) with
      | .error f => some (.check, f)
      | .ok _ => none := by
  obtain ⟨x, rfl, rfl, hmishap⟩ := h.mishap?_eq r index
  rw [hmishap, hjudges rfl hp, Check.fst_run_judge hid rfl]
  cases (x.index.nodes c.kind).mapM (verdict p) <;> rfl

end Runner

/-! ## Nodes of the class of texts -/

namespace Bundled

variable {r : Keyed Json} {d : Document} {x : Index Layer} {l : Layer}

/-- A page goes by the class of texts. -/
def HasTextPage (d : Document) : Prop := ∃ t ∈ d.pages, t.label.cls = "text"

theorem isOf_text_iff : (view l).isOf .text = true ↔ l.cls = "text" := by
  have hclass : (view l).className? = some l.cls := rfl
  rw [NodeView.isOf_specific _ (by decide) (by decide), decide_eq_true_iff, hclass,
    Option.bind_some]
  constructor
  · intro h
    obtain ⟨before, after, heq, -⟩ := List.lookup_eq_some_iff.mp h
    have hmem : (l.cls, Kind.text) ∈ Kind.classes := by rw [heq]; simp
    have honly : ∀ e ∈ Kind.classes, e.2 = .text → e.1 = "text" := by decide
    exact honly _ hmem rfl
  · intro h
    rw [h]
    rfl

theorem content_of_page {fields : Keyed Json} (h : l.ReadFrom .page fields) :
    l.form = .page ∧ l.content = none := by
  refine ⟨h.form, Option.not_isSome_iff_eq_none.mp fun hsome => ?_⟩
  cases h.content.mp hsome

theorem form_of_text (hread : Document.read r = .ok d) (hx : Index.build (some d.pages) = .ok x)
    (hl : l ∈ x.nodes .text) :
    l.form = .text ∧ l.content.isSome = true ∨
      (l.form = .page ∧ l.content = none) ∧ HasTextPage d := by
  rw [Index.nodes_of_build hx, List.mem_filter, isOf_text_iff] at hl
  obtain ⟨hmem, hcls⟩ := hl
  rw [← Tree.labels_placesAll] at hmem
  obtain ⟨⟨path, l⟩, hplace, rfl⟩ := List.mem_map.mp hmem
  have hat := (Tree.mem_placesAll_iff _ _ _).mp hplace
  obtain ⟨fields, f, -, hfrom, hform⟩ := Document.readAt?_of_at? hread hat
  by_cases hlength : path.length = 1
  · -- At the top stand pages, whatever their class.
    rw [if_pos hlength] at hform
    subst hform
    obtain ⟨i, rfl⟩ := List.length_eq_one_iff.mp hlength
    obtain ⟨t, ht, rfl⟩ : ∃ t, d.pages[i]? = some t ∧ t.label = l := by
      simpa [Tree.at?, Tree.subtree?] using hat
    exact .inr ⟨content_of_page hfrom, t, List.mem_of_getElem? ht, hcls⟩
  · -- Below, the class picks the form.
    rw [if_neg hlength] at hform
    have htext : f = .text := by
      obtain ⟨k, hfirst⟩ := hfrom.cls
      rw [Layer.formOf_eq_ok hform, Json.className?, hfirst, hcls]
      rfl
    subst htext
    exact .inl ⟨hfrom.form, hfrom.content.mpr rfl⟩

theorem exists_page_of_hasTextPage (hread : Document.read r = .ok d)
    (hx : Index.build (some d.pages) = .ok x) (h : HasTextPage d) :
    ∃ l ∈ x.nodes .text, l.form = .page ∧ l.content = none := by
  obtain ⟨t, ht, hcls⟩ := h
  obtain ⟨i, hi⟩ := List.mem_iff_getElem?.mp ht
  have hat : Tree.at? d.pages [i] = some t.label := by simp [Tree.at?, Tree.subtree?, hi]
  obtain ⟨fields, f, -, hfrom, hform⟩ := Document.readAt?_of_at? hread hat
  have hpage : f = .page := by simpa using hform
  subst hpage
  refine ⟨t.label, ?_, content_of_page hfrom⟩
  rw [Index.nodes_of_build hx, List.mem_filter, isOf_text_iff, ← Tree.labels_placesAll]
  exact ⟨List.mem_map.mpr ⟨_, (Tree.mem_placesAll_iff _ _ _).mpr hat, rfl⟩, hcls⟩

/-! ## What texts are asked for -/

/-- Texts have what is asked for, and pages fail with a fault. -/
structure AsksTexts {α : Type} (ask : Layer → Except Fault α) (f : Fault) : Prop where
  text : ∀ l : Layer, l.form = .text → l.content.isSome = true → ∃ a, ask l = .ok a
  page : ∀ l : Layer, l.form = .page → l.content = none → ask l = .error f

theorem textFont_asksTexts : AsksTexts textFont (.lacking "Page" "font_name") where
  text := by
    intro l hform _
    exact ⟨_, by rw [textFont, hform]⟩
  page := by
    intro l hform _
    rw [textFont, hform]
    rfl

theorem textContent_asksTexts : AsksTexts textContent (.lacking "Page" "text") where
  text := by
    intro l _ hcontent
    obtain ⟨s, hs⟩ := Option.isSome_iff_exists.mp hcontent
    exact ⟨s, by rw [textContent, hs]⟩
  page := by
    intro l hform hcontent
    rw [textContent, hcontent, hform]
    rfl

theorem AsksTexts.map {α β : Type} {ask : Layer → Except Fault α} {f : Fault} (h : AsksTexts ask f)
    (g : α → β) : AsksTexts (fun l => (ask l).map g) f where
  text := by
    intro l hform hcontent
    obtain ⟨a, ha⟩ := h.text l hform hcontent
    exact ⟨g a, by rw [ha]; rfl⟩
  page := by
    intro l hform hcontent
    rw [h.page l hform hcontent]
    rfl

theorem AsksTexts.mapM_ok {α : Type} {ask : Layer → Except Fault α} {f : Fault}
    (h : AsksTexts ask f) (hread : Document.read r = .ok d)
    (hx : Index.build (some d.pages) = .ok x) (hnone : ¬ HasTextPage d) :
    ∃ m, (x.nodes .text).mapM ask = .ok m := by
  refine Outcome.exists_mapM_eq_ok_iff.mpr fun l hl => ?_
  rcases form_of_text hread hx hl with ⟨hform, hcontent⟩ | ⟨-, hpage⟩
  · exact h.text l hform hcontent
  · exact absurd hpage hnone

theorem AsksTexts.mapM_error {α : Type} {ask : Layer → Except Fault α} {f : Fault}
    (h : AsksTexts ask f) (hread : Document.read r = .ok d)
    (hx : Index.build (some d.pages) = .ok x) (hpage : HasTextPage d) :
    (x.nodes .text).mapM ask = .error f := by
  refine Outcome.mapM_eq_error_of_mem (fun l hl => ?_) ?_
  · rcases form_of_text hread hx hl with ⟨hform, hcontent⟩ | ⟨⟨hform, hcontent⟩, -⟩
    · exact .inl (h.text l hform hcontent)
    · exact .inr (h.page l hform hcontent)
  · obtain ⟨l, hl, hform, hcontent⟩ := exists_page_of_hasTextPage hread hx hpage
    exact ⟨l, hl, h.page l hform hcontent⟩

end Bundled

end DesignLint
