import DesignLint.Proofs.Bundled.Sound

/-! # Runs under the defaults -/

namespace DesignLint.Bundled

open Runner

def defaultConfigs : Keyed ConfigInput := config.map fun e => (e.1, .flat e.2)

/-! ## Every rule starts -/

section Starts

set_option maxRecDepth 20000

theorem artboard_starts : Starts defaultConfigs ArtboardSize.rule
    ⟨ArtboardSize.name, ["sizes", "allow_exceeding_height"],
      [("sizes", .texts Displays.all), ("allow_exceeding_height", .bool true)]⟩ :=
  ⟨_, _, _, rfl, rfl, rfl, rfl, rfl⟩

theorem symbol_starts : Starts defaultConfigs TapTarget.Symbol.rule
    ⟨TapTarget.Symbol.name, ["min_size", "name_pattern"],
      [("min_size", .float 44), ("name_pattern", .str tappableNames)]⟩ :=
  ⟨_, _, _, rfl, rfl, rfl, rfl, rfl⟩

theorem interactive_starts : Starts defaultConfigs TapTarget.Interactive.rule
    ⟨TapTarget.Interactive.name, ["min_size"], [("min_size", .float 44)]⟩ :=
  ⟨_, _, _, rfl, rfl, rfl, rfl, rfl⟩

theorem sanFrancisco_starts : Starts defaultConfigs OpticalSize.SanFrancisco.rule
    ⟨OpticalSize.SanFrancisco.name, ["pattern"],
      [("pattern", .str OpticalSize.SanFrancisco.family)]⟩ :=
  ⟨_, _, _, rfl, rfl, rfl, rfl, rfl⟩

theorem newYork_starts : Starts defaultConfigs OpticalSize.NewYork.rule
    ⟨OpticalSize.NewYork.name, ["pattern"], [("pattern", .str OpticalSize.NewYork.family)]⟩ :=
  ⟨_, _, _, rfl, rfl, rfl, rfl, rfl⟩

theorem weight_starts : Starts defaultConfigs FontWeight.rule
    ⟨FontWeight.name, ["pattern"], [("pattern", .texts fontWeights)]⟩ :=
  ⟨_, _, _, rfl, rfl, rfl, rfl, rfl⟩

theorem ellipsis_starts : Starts defaultConfigs Ellipsis.rule ⟨Ellipsis.name, [], []⟩ :=
  ⟨_, _, _, rfl, rfl, rfl, rfl, rfl⟩

end Starts

theorem exists_sizes : ∃ sizes, Displays.all.mapM Size.parse = .ok sizes :=
  Outcome.exists_of_isOk (by decide +kernel)

theorem exists_pattern : ∃ pattern, TapTarget.Symbol.readPattern tappableNames = .ok pattern :=
  Outcome.exists_of_isOk (by decide +kernel)

/-! ## What goes wrong with each rule -/

variable {raw : Keyed Json} {d : Document} {x : Index Layer}

/-- The rules, those about texts with the fault of a page that is asked for what texts have. -/
def pageFaults : List (Rule × Option Fault) := [
  (ArtboardSize.rule, none), (TapTarget.Symbol.rule, none), (TapTarget.Interactive.rule, none),
  (OpticalSize.SanFrancisco.rule, some (.lacking "Page" "font_name")),
  (OpticalSize.NewYork.rule, some (.lacking "Page" "font_name")),
  (FontWeight.rule, some (.lacking "Page" "font_name")),
  (Ellipsis.rule, some (.lacking "Page" "text"))]

theorem mishap?_of_verdict_ok {c : Criterion} {values : OptionValues} {p : c.Parameters}
    {verdict : c.Parameters → Layer → Except Fault (List String)} (r : Runner)
    (hx : Index.build (some d.pages) = .ok x) (h : Starts defaultConfigs c.rule values)
    (hjudges : c.Judges verdict) (hp : c.Reads values p) (hok : ∀ l, ∃ m, verdict p l = .ok m) :
    r.mishap? x defaultConfigs c.rule = none := by
  obtain ⟨m, hm⟩ := Outcome.exists_mapM_eq_ok_iff.mpr fun l (_ : l ∈ x.nodes c.kind) => hok l
  rw [h.mishap?_judges r hjudges hp (Index.id_ne_of_build hx c.kind), hm]

open Classical in
theorem mishap?_of_asksTexts {c : Criterion} {values : OptionValues} {p : c.Parameters}
    {verdict : c.Parameters → Layer → Except Fault (List String)} {f : Fault} (r : Runner)
    (hread : Document.read raw = .ok d) (hx : Index.build (some d.pages) = .ok x)
    (h : Starts defaultConfigs c.rule values) (hjudges : c.Judges verdict) (hp : c.Reads values p)
    (hkind : c.kind = .text) (hasks : AsksTexts (verdict p) f) :
    r.mishap? x defaultConfigs c.rule = if HasTextPage d then some (.check, f) else none := by
  rw [h.mishap?_judges r hjudges hp (Index.id_ne_of_build hx c.kind), hkind]
  by_cases hpage : HasTextPage d
  · rw [if_pos hpage, hasks.mapM_error hread hx hpage]
  · obtain ⟨m, hm⟩ := hasks.mapM_ok hread hx hpage
    rw [if_neg hpage, hm]

open Classical in
theorem mishap?_default (r : Runner) (hread : Document.read raw = .ok d)
    (hx : Index.build (some d.pages) = .ok x) (e : Rule × Option Fault) (he : e ∈ pageFaults) :
    r.mishap? x defaultConfigs e.1 =
      if HasTextPage d then e.2.map fun f => (.check, f) else none := by
  simp only [pageFaults, List.mem_cons, List.not_mem_nil, or_false] at he
  have hsound : ∀ rule, r.mishap? x defaultConfigs rule = none →
      r.mishap? x defaultConfigs rule = if HasTextPage d then
        (none : Option Fault).map fun f => (Stage.check, f) else none := by
    intro rule h
    simp [h]
  rcases he with rfl | rfl | rfl | rfl | rfl | rfl | rfl
  · obtain ⟨sizes, hsizes⟩ := exists_sizes
    exact hsound _ (mishap?_of_verdict_ok (c := artboardCriterion) (p := (true, sizes)) r hx
      artboard_starts artboard_judges ⟨⟨_, rfl, rfl⟩, _, rfl, hsizes⟩ fun l => ⟨_, rfl⟩)
  · obtain ⟨pattern, hpattern⟩ := exists_pattern
    exact hsound _ (mishap?_of_verdict_ok (c := symbolCriterion) (p := (44, pattern)) r hx
      symbol_starts symbol_judges ⟨rfl, _, rfl, hpattern⟩ fun l => ⟨_, rfl⟩)
  · exact hsound _ (mishap?_of_verdict_ok (c := interactiveCriterion) r hx
      interactive_starts interactive_judges rfl fun l => ⟨_, rfl⟩)
  · exact mishap?_of_asksTexts (c := sanFranciscoCriterion) (p := ()) r hread hx sanFrancisco_starts
      sanFrancisco_judges ⟨_, rfl⟩ rfl (textFont_asksTexts.map _)
  · exact mishap?_of_asksTexts (c := newYorkCriterion) (p := ()) r hread hx newYork_starts
      newYork_judges ⟨_, rfl⟩ rfl (textFont_asksTexts.map _)
  · exact mishap?_of_asksTexts (c := weightCriterion) (p := fontWeights) r hread hx weight_starts
      weight_judges rfl rfl (textFont_asksTexts.map _)
  · exact mishap?_of_asksTexts (c := ellipsisCriterion) (p := ()) r hread hx ellipsis_starts
      ellipsis_judges trivial rfl (textContent_asksTexts.map _)

/-! ## Whole runs -/

theorem hasMapping_defaultConfigs (rule : Rule) : HasMapping defaultConfigs rule := by
  intro v hv
  have hmem := Keyed.mem_of_get? (Option.mem_filter_iff.mp hv).1
  have hall : ∀ e ∈ defaultConfigs, ∃ fields, e.2 = .flat (.obj fields) := by
    simp [defaultConfigs, config]
  obtain ⟨fields, hfields⟩ := hall _ hmem
  cases hfields
  exact ⟨fields, rfl⟩

theorem nodup_rules : (rules.map (·.name)).Nodup := by decide

theorem map_pageFaults : pageFaults.map (·.1) = rules := rfl

theorem exists_starts {e : Rule × Option Fault} (he : e ∈ pageFaults) :
    ∃ values, Starts defaultConfigs e.1 values := by
  simp only [pageFaults, List.mem_cons, List.not_mem_nil, or_false] at he
  rcases he with rfl | rfl | rfl | rfl | rfl | rfl | rfl
  · exact ⟨_, artboard_starts⟩
  · exact ⟨_, symbol_starts⟩
  · exact ⟨_, interactive_starts⟩
  · exact ⟨_, sanFrancisco_starts⟩
  · exact ⟨_, newYork_starts⟩
  · exact ⟨_, weight_starts⟩
  · exact ⟨_, ellipsis_starts⟩

theorem isFatal_pageFaults : ∀ e ∈ pageFaults, ∀ f ∈ e.2, f.isFatal = false := by
  simp [pageFaults, Fault.isFatal, Fault.name, Fault.fatalNames]

theorem isAttempted_of_mem {rule : Rule} (h : rule ∈ rules) :
    isAttempted defaultConfigs rule = true := by
  obtain ⟨e, he, rfl⟩ := List.mem_map.mp (map_pageFaults ▸ h)
  obtain ⟨values, hstarts⟩ := exists_starts he
  exact hstarts.isAttempted

theorem exists_solo_of_mem (r : Runner) (hread : Document.read raw = .ok d)
    (hx : Index.build (some d.pages) = .ok x) {rule : Rule} (h : rule ∈ rules) :
    ∃ o, r.solo x defaultConfigs rule = .ok o := by
  obtain ⟨e, he, rfl⟩ := List.mem_map.mp (map_pageFaults ▸ h)
  have hstage : ∀ stage f, r.mishap? x defaultConfigs e.1 = some (stage, f) →
      stage = .check ∧ f ∈ e.2 := by
    intro stage f hf
    rw [mishap?_default r hread hx e he] at hf
    split at hf
    · obtain ⟨g, hg, heq⟩ := Option.map_eq_some_iff.mp hf
      cases heq
      exact ⟨rfl, hg⟩
    · cases hf
  refine exists_solo (hasMapping_defaultConfigs e.1) (fun stage f hf => ?_) fun f hf => ?_
  · exact isFatal_pageFaults e he f (hstage stage f hf).2
  · cases (hstage _ f hf).1

open Classical in
theorem filterMap_mishapError (r : Runner) (hread : Document.read raw = .ok d)
    (hx : Index.build (some d.pages) = .ok x) :
    (rules.filterMap fun rule => (r.mishap? x defaultConfigs rule).map (mishapError rule)) =
      if HasTextPage d then pageFaults.filterMap fun e =>
        e.2.map (RuleError.ofFault e.1.name) else [] := by
  have herror : ∀ e ∈ pageFaults, (r.mishap? x defaultConfigs e.1).map (mishapError e.1) =
      if HasTextPage d then e.2.map (RuleError.ofFault e.1.name) else none := by
    intro e he
    rw [mishap?_default r hread hx e he]
    split
    · rw [Option.map_map]
      rfl
    · rfl
  rw [← map_pageFaults, List.filterMap_map]
  refine (List.filterMap_congr herror).trans ?_
  split
  · rfl
  · exact List.filterMap_none _

open Classical in
theorem exists_runs (r : Runner) (hread : Document.read raw = .ok d)
    (hx : Index.build (some d.pages) = .ok x) :
    ∃ runs, rules.mapM (r.solo x defaultConfigs) = .ok runs ∧
      (Result.ofRuns runs).rulesRun = rules.map (·.name) ∧
      (Result.ofRuns runs).errors = if HasTextPage d then pageFaults.filterMap fun e =>
        e.2.map (RuleError.ofFault e.1.name) else [] := by
  obtain ⟨runs, hruns⟩ := Outcome.exists_mapM_eq_ok_iff.mpr fun rule hrule =>
    exists_solo_of_mem r hread hx hrule
  obtain ⟨herrors, hran⟩ := errors_ofRuns hruns
  refine ⟨runs, hruns, ?_, ?_⟩
  · rw [hran, List.filter_eq_self.mpr fun rule hrule => isAttempted_of_mem hrule]
  · rw [herrors, filterMap_mishapError r hread hx]

open Classical in
theorem exists_report {source : Document.Source} (r : Runner)
    (hd : Document.load source = .ok d) (hx : Index.build (some d.pages) = .ok x) :
    ∃ report, r.run source rules defaultConfigs = .ok report ∧
      report.result.rulesRun = rules.map (·.name) ∧
      report.result.errors = if HasTextPage d then pageFaults.filterMap fun e =>
        e.2.map (RuleError.ofFault e.1.name) else [] := by
  obtain ⟨raw, -, hread⟩ := Document.load_eq_ok_iff.mp hd
  obtain ⟨runs, hruns, hran, herrors⟩ := exists_runs r hread hx
  have hresult := result_runLoaded_of_index r defaultConfigs hd hx nodup_rules
  rw [hruns] at hresult
  obtain ⟨report, hreport, heq⟩ := Outcome.map_eq_ok_iff.mp hresult
  exact ⟨report, hreport, heq ▸ hran, heq ▸ herrors⟩

/-- All bundled rules run under their defaults over every document that can be indexed, and none
fails unless a page goes by the class of texts. -/
theorem run_rules_defaultConfigs {source : Document.Source} (r : Runner)
    (hd : Document.load source = .ok d) (hx : Index.build (some d.pages) = .ok x) :
    ∃ report, r.run source rules defaultConfigs = .ok report ∧
      report.result.rulesRun = rules.map (·.name) ∧
      (¬ HasTextPage d → report.result.errors = [] ∧
        ∀ l ∈ x.nodes .text, (∃ font, textFont l = .ok font) ∧ ∃ s, textContent l = .ok s) ∧
      (HasTextPage d → report.result.errors = [
        .ofFault OpticalSize.SanFrancisco.name (.lacking "Page" "font_name"),
        .ofFault OpticalSize.NewYork.name (.lacking "Page" "font_name"),
        .ofFault FontWeight.name (.lacking "Page" "font_name"),
        .ofFault Ellipsis.name (.lacking "Page" "text")]) := by
  obtain ⟨raw, -, hread⟩ := Document.load_eq_ok_iff.mp hd
  obtain ⟨report, hreport, hran, herrors⟩ := exists_report r hd hx
  refine ⟨report, hreport, hran, fun hnone => ?_, fun hpage => ?_⟩
  · rw [herrors, if_neg hnone]
    refine ⟨rfl, fun l hl => ?_⟩
    rcases form_of_text hread hx hl with ⟨hform, hcontent⟩ | ⟨-, hpage⟩
    · exact ⟨textFont_asksTexts.text l hform hcontent, textContent_asksTexts.text l hform hcontent⟩
    · exact absurd hpage hnone
  · rw [herrors, if_pos hpage]
    rfl

/-! ## A page in two classes -/

def rawPage (cls : String) : Json :=
  Document.rawDocument [Document.rawLayer "_class" (.str cls) "p" []]

theorem run_rules_defaultConfigs_page :
    ∃ d x report, Document.load (.value (rawPage "page")) = .ok d ∧
      Index.build (some d.pages) = .ok x ∧
      Runner.run ⟨.warn⟩ (.value (rawPage "page")) rules defaultConfigs = .ok report ∧
      report.result.errors = [] := by
  have hload : Document.load (.value (rawPage "page")) = .ok _ := rfl
  obtain ⟨report, hreport, -, hsound, -⟩ := run_rules_defaultConfigs ⟨.warn⟩ hload rfl
  refine ⟨_, _, report, hload, rfl, hreport, (hsound ?_).1⟩
  simp [HasTextPage, Tree.label]

/-- A page of the class of texts makes four of the bundled rules fail. -/
theorem textPage_fails :
    ∃ d x report, Document.load (.value (rawPage "text")) = .ok d ∧
      Index.build (some d.pages) = .ok x ∧
      Runner.run ⟨.warn⟩ (.value (rawPage "text")) rules defaultConfigs = .ok report ∧
      report.result.errors.length = 4 := by
  have hload : Document.load (.value (rawPage "text")) = .ok _ := rfl
  obtain ⟨report, hreport, -, herrors⟩ := exists_report ⟨.warn⟩ hload rfl
  refine ⟨_, _, report, hload, rfl, hreport, ?_⟩
  rw [herrors, if_pos ⟨_, List.mem_singleton_self _, rfl⟩]
  rfl

end DesignLint.Bundled
