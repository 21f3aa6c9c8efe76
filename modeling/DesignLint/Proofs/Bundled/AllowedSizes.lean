import DesignLint.Proofs.Bundled.Reported
import DesignLint.Proofs.RuleOption.Pointwise

/-!
# Allowed sizes of artboards

The more sizes are allowed, the fewer artboards are reported. This needs a size: the rule refuses an
empty list, and a text that spells no size fails its check.
-/

namespace DesignLint

/-! ## Texts that spell sizes -/

theorem splitOn_eq_pair_iff {c : Char} {l a b : List Char} :
    l.splitOn c = [a, b] ↔ l = a ++ c :: b ∧ c ∉ a ∧ c ∉ b := by
  constructor
  · intro h
    by_cases hmem : c ∈ l
    · obtain ⟨before, after, rfl, hbefore⟩ := List.eq_append_cons_of_mem hmem
      rw [List.splitOn_append_cons_self_of_not_mem hbefore, List.cons.injEq] at h
      obtain ⟨rfl, hafter⟩ := h
      by_cases hmore : c ∈ after
      · obtain ⟨between, rest, rfl, hbetween⟩ := List.eq_append_cons_of_mem hmore
        rw [List.splitOn_append_cons_self_of_not_mem hbetween, List.cons.injEq] at hafter
        exact absurd hafter.2 (List.splitOn_ne_nil _ _)
      · rw [List.splitOn_eq_singleton hmore, List.cons.injEq] at hafter
        obtain ⟨rfl, -⟩ := hafter
        exact ⟨rfl, hbefore, hmore⟩
    · rw [List.splitOn_eq_singleton hmem] at h
      cases h
  · rintro ⟨rfl, ha, hb⟩
    rw [List.splitOn_append_cons_self_of_not_mem ha, List.splitOn_eq_singleton hb]

namespace Size

variable {s : String}

/-- The text spells a size: two floats around its only `x`. -/
def IsText (s : String) : Prop :=
  ∃ w h, s = w ++ "x" ++ h ∧ 'x' ∉ w.toList ∧ 'x' ∉ h.toList ∧
    (Number.parseFloat? w).isSome = true ∧ (Number.parseFloat? h).isSome = true

theorem exists_parse_iff : (∃ size, parse s = .ok size) ↔ IsText s := by
  constructor
  · rintro ⟨size, h⟩
    unfold parse at h
    split at h
    · rename_i w v hsplit
      obtain ⟨hs, hw, hv⟩ := splitOn_eq_pair_iff.mp hsplit
      split at h
      · rename_i width height hwidth hheight
        refine ⟨String.ofList w, String.ofList v, ?_, by simpa using hw, by simpa using hv, ?_, ?_⟩
        · rw [← String.toList_inj, hs]
          simp
        · rw [hwidth]
          rfl
        · rw [hheight]
          rfl
      · cases h
    · cases h
  · rintro ⟨w, v, rfl, hw, hv, hwidth, hheight⟩
    obtain ⟨width, hwidth⟩ := Option.isSome_iff_exists.mp hwidth
    obtain ⟨height, hheight⟩ := Option.isSome_iff_exists.mp hheight
    have hsplit : (w ++ "x" ++ v).toList.splitOn 'x' = [w.toList, v.toList] :=
      splitOn_eq_pair_iff.mpr ⟨by simp, hw, hv⟩
    refine ⟨⟨width, height⟩, ?_⟩
    rw [parse, hsplit]
    simp [hwidth, hheight]

theorem parse_of_not_isText (h : ¬ IsText s) : parse s = .error (.size s) := by
  cases hparse : parse s with
  | ok size => exact absurd (exists_parse_iff.mp ⟨size, hparse⟩) h
  | error f =>
    unfold parse at hparse
    split at hparse
    · split at hparse <;> cases hparse
      rfl
    · cases hparse
      rfl

theorem shown_fault (s : String) : (Fault.size s).shown = "Invalid size '" ++ s ++ "'" := by
  have htext : (Fault.size s).text = "Invalid size '" ++ s ++ "'" := rfl
  rw [Fault.shown, htext, if_neg (by simp)]

end Size

namespace ArtboardSize

variable {r : Runner} {source : Document.Source} {d : Document} {index : Index Layer}
  {configs configs' : Keyed ConfigInput} {config config' : RuleConfig}
  {sizes sizes' : List String} {exceeding exceeding' : Bool}

/-! ## Configurations of the rule -/

/-- The rule is active with these sizes, and with this flag for exceeding heights. -/
structure IsConfigured (configs : Keyed ConfigInput) (config : RuleConfig) (sizes : List String)
    (exceeding : Bool) : Prop where
  given : ∃ input, Runner.configOf configs name = some input ∧
    RuleConfig.coerce name input = .ok config
  active : config.active = true
  keys : (Keyed.keys config.options).Nodup
  sizes : config.options.get? "sizes" = some (.texts sizes)
  exceeding : (config.options.get? "allow_exceeding_height").getD (.bool false) = .bool exceeding

def acceptSizes : Acceptor := .array (.text none none none) (some 1) none

theorem acceptSizes_texts (h : sizes ≠ []) : acceptSizes (.texts sizes) = .ok (.texts sizes) := by
  have hitem : ∀ v ∈ sizes.map Json.str, Acceptor.text none none none v = .ok v := by
    intro v hv
    obtain ⟨s, -, rfl⟩ := List.mem_map.mp hv
    rfl
  refine Acceptor.array_eq_ok_iff.mpr ⟨_, _, rfl, rfl, List.forall₂_same.mpr hitem, ?_, by simp⟩
  rintro n ⟨⟩
  rw [List.length_map]
  exact List.length_pos_iff.mpr h

def schema : Schema :=
  ⟨Schema.nameOf name, [("sizes", acceptSizes), ("allow_exceeding_height", .boolean)]⟩

theorem compile_options : Schema.compile name options = .ok schema := rfl

def valuesOf (sizes : List String) (exceeding : Bool) : OptionValues where
  rule := name
  declared := ["sizes", "allow_exceeding_height"]
  values := [("sizes", .texts sizes), ("allow_exceeding_height", .bool exceeding)]

def noSizes : Fault :=
  .option (.invalid name ["sizes: List should have at least 1 item after validation, not 0"])

namespace IsConfigured

theorem get?_supplied_sizes (h : IsConfigured configs config sizes exceeding) :
    (OptionValues.supplied options config).get? "sizes" = some (.texts sizes) := by
  rw [OptionValues.get?_supplied (by decide) h.keys, h.sizes]
  rfl

theorem get?_supplied_exceeding (h : IsConfigured configs config sizes exceeding) :
    (OptionValues.supplied options config).get? "allow_exceeding_height" =
      some (.bool exceeding) := by
  have hflag := h.exceeding
  have hfallback : Declaration.fallback? options "allow_exceeding_height" = some (.bool false) := rfl
  rw [OptionValues.get?_supplied (by decide) h.keys, hfallback]
  cases hget : config.options.get? "allow_exceeding_height" with
  | none =>
    rw [hget] at hflag
    exact congrArg some hflag
  | some v =>
    rw [hget] at hflag
    exact congrArg some hflag

theorem check_options (h : IsConfigured configs config sizes exceeding) (hsizes : sizes ≠ []) :
    OptionValues.check name options schema config = .ok (valuesOf sizes exceeding) := by
  simp only [OptionValues.check, Schema.check, schema, List.map_cons, List.map_nil,
    Schema.checkField, h.get?_supplied_sizes, h.get?_supplied_exceeding, acceptSizes_texts hsizes]
  rfl

theorem check_options_nil (h : IsConfigured configs config [] exceeding) :
    OptionValues.check name options schema config = .error noSizes := by
  simp only [OptionValues.check, Schema.check, schema, List.map_cons, List.map_nil,
    Schema.checkField, h.get?_supplied_sizes, h.get?_supplied_exceeding]
  rfl

theorem exists_invokes (h : IsConfigured configs config sizes exceeding) (hsizes : sizes ≠ [])
    (r : Runner) (index : Index Layer) :
    ∃ x, Runner.Invokes r index configs rule config x ∧ x.options = valuesOf sizes exceeding :=
  ⟨Runner.contextOf r index rule config (valuesOf sizes exceeding), {
    given := h.given
    active := h.active
    options := Runner.resolve_eq_ok_iff.mpr ⟨schema, compile_options, h.check_options hsizes⟩
    context := rfl }, rfl⟩

theorem solo_nil (h : IsConfigured configs config [] exceeding) (r : Runner) (index : Index Layer) :
    r.solo index configs rule = .ok (.unstarted (.ofFault name noSizes)) := by
  obtain ⟨input, hinput, hconfig⟩ := h.given
  have hinput' : Runner.configOf configs rule.name = some input := hinput
  have hconfig' : RuleConfig.coerce rule.name input = .ok config := hconfig
  have hschema : Schema.compile rule.name rule.options = .ok schema := compile_options
  have hvalues : OptionValues.check rule.name rule.options schema config = .error noSizes :=
    h.check_options_nil
  simp only [Runner.solo, Runner.runRule, hinput', hconfig', h.active, if_true, Runner.start,
    hschema, hvalues]
  rfl

end IsConfigured

/-! ## What is allowed -/

theorem reads_valuesOf {l : List Size} (h : sizes.mapM Size.parse = .ok l) (exceeding : Bool) :
    Bundled.artboardCriterion.Reads (valuesOf sizes exceeding) (exceeding, l) :=
  ⟨⟨.bool exceeding, rfl, rfl⟩, sizes, rfl, h⟩

theorem fits_of_laxer {frame : Rect} {s : Size} (hflag : exceeding = true → exceeding' = true)
    (h : fits exceeding frame s = true) : fits exceeding' frame s = true := by
  rw [fits, Bool.and_eq_true] at h ⊢
  refine ⟨h.1, ?_⟩
  cases exceeding with
  | true =>
    rw [hflag rfl]
    exact h.2
  | false =>
    cases exceeding' with
    | true => exact decide_eq_true (FloatOrder.ge_of_beq h.2)
    | false => exact h.2

theorem isAllowed_of_laxer {frame : Rect} {l m : List Size} (hsizes : l ⊆ m)
    (hflag : exceeding = true → exceeding' = true) (h : isAllowed exceeding l frame = true) :
    isAllowed exceeding' m frame = true := by
  obtain ⟨s, hs, hfits⟩ := List.any_eq_true.mp h
  exact List.any_eq_true.mpr ⟨s, hsizes hs, fits_of_laxer hflag hfits⟩

theorem flags_iff {l : List Size} {a : Layer} :
    Bundled.artboardCriterion.Flags (exceeding, l) a ↔ ¬ isAllowed exceeding l a.frame = true := by
  cases exceeding <;> simp [isAllowed, fits, Bundled.artboardCriterion]

/-- Sizes that allow the same have the same verdicts. -/
theorem verdict_congr {l m : List Size} (h : l ⊆ m) (h' : m ⊆ l) :
    verdict exceeding m = verdict exceeding l := by
  funext a
  have hsame : isAllowed exceeding m a.frame = isAllowed exceeding l a.frame :=
    Bool.eq_iff_iff.mpr ⟨isAllowed_of_laxer h' id, isAllowed_of_laxer h id⟩
  rw [verdict, verdict, hsame]

theorem subset_of_mapM_parse {l m : List Size} (h : sizes ⊆ sizes')
    (hl : sizes.mapM Size.parse = .ok l) (hm : sizes'.mapM Size.parse = .ok m) : l ⊆ m := by
  intro s hs
  obtain ⟨text, htext, hparse⟩ := Outcome.exists_of_mem_mapM hl hs
  obtain ⟨s', hs', hparse'⟩ := Outcome.exists_mem_of_mapM hm (h htext)
  cases hparse.symm.trans hparse'
  exact hs'

theorem exists_mapM_parse (h : ∀ s ∈ sizes, Size.IsText s) :
    ∃ l, sizes.mapM Size.parse = .ok l :=
  Outcome.exists_mapM_eq_ok_iff.mpr fun s hs => Size.exists_parse_iff.mpr (h s hs)

/-! ## What is reported -/

theorem run_check_of_misspelled {x : Context} {before after : List String} {bad : String}
    (hx : x.options = valuesOf (before ++ bad :: after) exceeding)
    (hbefore : ∀ s ∈ before, Size.IsText s) (hbad : ¬ Size.IsText bad) :
    check.run x (Session.start []) = (.error (.size bad), Session.start []) := by
  have hsizes : (before ++ bad :: after).mapM Size.parse = .error (.size bad) :=
    Outcome.mapM_eq_error_iff.mpr ⟨before, bad, after, rfl,
      fun s hs => Size.exists_parse_iff.mpr (hbefore s hs), Size.parse_of_not_isText hbad⟩
  have hflag : x.options.get "allow_exceeding_height" = .ok (.bool exceeding) := by
    rw [hx]
    rfl
  have htexts : x.options.get "sizes" = .ok (.texts (before ++ bad :: after)) := by
    rw [hx]
    rfl
  rw [check, Check.run_bind_of_ok (Check.run_flagOption rfl hflag),
    Check.run_bind_of_ok (Check.run_textsOption rfl htexts), hsizes]
  rfl

namespace IsConfigured

variable {l : List Size}

theorem finds (h : IsConfigured configs config sizes exceeding) (hsizes : sizes ≠ [])
    (hl : sizes.mapM Size.parse = .ok l) (hd : Document.load source = .ok d)
    (hx : Index.build (some d.pages) = .ok index) (r : Runner) :
    ∃ x : Context, (x.rule = name ∧ x.index = index ∧
        x.severity = config.severity.getD r.severity) ∧
      r.Finds source configs rule ((index.nodes .artboard).flatMap fun a =>
        (Check.said (verdict exceeding l) a).map (x.violationOf a)) [] := by
  obtain ⟨x, hinvokes, hoptions⟩ := h.exists_invokes hsizes r index
  have hreads : Bundled.artboardCriterion.Reads x.options (exceeding, l) := by
    rw [hoptions]
    exact reads_valuesOf hl exceeding
  refine ⟨x, ⟨hinvokes.rule_eq, hinvokes.index_eq, hinvokes.severity_eq⟩, ?_⟩
  exact Runner.Invokes.finds (c := Bundled.artboardCriterion) hinvokes hd hx
    Bundled.artboard_judges hreads fun _ _ => ⟨_, rfl⟩

theorem finds_misspelled {before after : List String} {bad : String}
    (h : IsConfigured configs config (before ++ bad :: after) exceeding)
    (hbefore : ∀ s ∈ before, Size.IsText s) (hbad : ¬ Size.IsText bad)
    (hd : Document.load source = .ok d) (hx : Index.build (some d.pages) = .ok index)
    (r : Runner) : r.Finds source configs rule [] [.ofFault name (.size bad)] := by
  obtain ⟨x, hinvokes, hoptions⟩ := h.exists_invokes (by simp) r index
  have hsolo : r.solo index configs rule = .ok (.settled x (Session.start []).close
      (some (.ofFault name (.size bad)))) := by
    rw [hinvokes.solo_eq, Runner.settle]
    have hrun : rule.check.run x (Session.start []) = _ :=
      run_check_of_misspelled hoptions hbefore hbad
    rw [hrun, hinvokes.rule_eq]
    rfl
  exact Runner.finds_of_solo hd hx hsolo

theorem finds_nil (h : IsConfigured configs config [] exceeding)
    (hd : Document.load source = .ok d) (hx : Index.build (some d.pages) = .ok index)
    (r : Runner) : r.Finds source configs rule [] [.ofFault name noSizes] :=
  Runner.finds_of_solo hd hx (h.solo_nil r index)

end IsConfigured

/-! ## The law -/

/-- With more sizes allowed, or heights that may be exceeded, the rule reports no other artboard,
and those that it does in the same order. Where a text is no size, nothing is reported but one
error; where there is no size at all, the configuration is refused. -/
theorem laxer_sizes_report_less (r : Runner) (hd : Document.load source = .ok d)
    (hx : ∃ index, Index.build (some d.pages) = .ok index) :
    (∀ {configs configs' config config' sizes sizes' exceeding exceeding'},
      IsConfigured configs config sizes exceeding →
      IsConfigured configs' config' sizes' exceeding' → sizes ≠ [] →
      (∀ s ∈ sizes', Size.IsText s) → sizes ⊆ sizes' → (exceeding = true → exceeding' = true) →
      ∃ vs vs', r.Finds source configs rule vs [] ∧ r.Finds source configs' rule vs' [] ∧
        (vs'.map (·.nodeId)).Sublist (vs.map (·.nodeId)) ∧
        (sizes' ⊆ sizes → exceeding' = exceeding → config'.severity = config.severity →
          vs' = vs)) ∧
    (∀ {configs config exceeding} {before after : List String} {bad : String},
      IsConfigured configs config (before ++ bad :: after) exceeding →
      (∀ s ∈ before, Size.IsText s) → ¬ Size.IsText bad →
      ∃ e : RuleError, r.Finds source configs rule [] [e] ∧
        e.text = "Invalid size '" ++ bad ++ "'" ∧ e.kind = .checkExecutionError) ∧
    (∀ {configs config exceeding}, IsConfigured configs config [] exceeding →
      ∃ e : RuleError, r.Finds source configs rule [] [e] ∧ e.kind = .optionValidationFailed) := by
  obtain ⟨index, hx⟩ := hx
  refine ⟨?_, ?_, ?_⟩
  · intro configs configs' config config' sizes sizes' exceeding exceeding' h h' hne htexts hsizes
      hflag
    obtain ⟨l, hl⟩ := exists_mapM_parse fun s hs => htexts s (hsizes hs)
    obtain ⟨m, hm⟩ := exists_mapM_parse htexts
    have hne' : sizes' ≠ [] := fun hnil => hne (List.eq_nil_of_subset_nil (hnil ▸ hsizes))
    obtain ⟨x, ⟨hrule, hindex, hseverity⟩, hfinds⟩ := h.finds hne hl hd hx r
    obtain ⟨x', ⟨hrule', hindex', hseverity'⟩, hfinds'⟩ := h'.finds hne' hm hd hx r
    have hmore := subset_of_mapM_parse hsizes hl hm
    refine ⟨_, _, hfinds, hfinds', ?_, ?_⟩
    · exact Check.nodeIds_said_sublist
        (Bundled.artboard_judgedBy.flags (exceeding, l))
        (Bundled.artboard_judgedBy.flags (exceeding', m)) (fun _ _ => rfl) (fun _ _ => rfl)
        (fun a hflags => flags_iff.mpr fun hallowed =>
          flags_iff.mp hflags (isAllowed_of_laxer hmore hflag hallowed)) x x'
    · rintro hback rfl hsame
      have hviolation : x'.violationOf = x.violationOf := by
        unfold Context.violationOf
        rw [hrule, hrule', hindex, hindex', hseverity, hseverity', hsame]
      rw [hviolation, verdict_congr hmore (subset_of_mapM_parse hback hm hl)]
  · intro configs config exceeding before after bad h hbefore hbad
    exact ⟨_, h.finds_misspelled hbefore hbad hd hx r, Size.shown_fault bad, rfl⟩
  · intro configs config exceeding h
    exact ⟨_, h.finds_nil hd hx r, rfl⟩

/-! ## One artboard -/

def rawHome : Json := Document.rawPair "page" "artboard"

def homeOptions (sizes : List String) (exceeding : Bool) : Keyed Json :=
  [("sizes", .texts sizes), ("allow_exceeding_height", .bool exceeding)]

def homeConfigs (sizes : List String) (exceeding : Bool) : Keyed ConfigInput :=
  [(name, .flat (.obj (homeOptions sizes exceeding)))]

theorem isConfigured_home (sizes : List String) (exceeding : Bool) :
    IsConfigured (homeConfigs sizes exceeding) ⟨true, none, none, homeOptions sizes exceeding⟩ sizes
      exceeding where
  given := ⟨_, rfl, rfl⟩
  active := rfl
  keys := by
    have hkeys : Keyed.keys (homeOptions sizes exceeding) =
        ["sizes", "allow_exceeding_height"] := rfl
    rw [hkeys]
    decide
  sizes := rfl
  exceeding := rfl

theorem load_rawHome : ∃ d, Document.load (.value rawHome) = .ok d ∧
    ∃ index, Index.build (some d.pages) = .ok index :=
  ⟨_, rfl, _, rfl⟩

def homeIds (sizes : List String) : Except Fault (List String) :=
  (Runner.run ⟨.warn⟩ (.value rawHome) [rule] (homeConfigs sizes false)).map fun report =>
    report.result.violations.map (·.nodeId)

theorem map_nodeId_of_finds {ids : List String} {vs : List Violation} {es : List RuleError}
    (hids : homeIds sizes = .ok ids)
    (h : Runner.Finds ⟨.warn⟩ (.value rawHome) (homeConfigs sizes false) rule vs es) :
    vs.map (·.nodeId) = ids := by
  obtain ⟨report, hreport, rfl, -⟩ := h.alone
  rw [homeIds, hreport] at hids
  exact Except.ok.inj hids

theorem homeIds_phone : homeIds ["375x812"] = .ok ["l"] := rfl

theorem isText_phone : Size.IsText "375x812" := Size.exists_parse_iff.mp ⟨_, rfl⟩

theorem isText_home : Size.IsText "100x20" := Size.exists_parse_iff.mp ⟨_, rfl⟩

theorem laxer_sizes_report_less_home :
    (∃ vs vs', Runner.Finds ⟨.warn⟩ (.value rawHome) (homeConfigs ["375x812"] false) rule vs [] ∧
      Runner.Finds ⟨.warn⟩ (.value rawHome) (homeConfigs ["100x20", "375x812"] false) rule vs' [] ∧
      vs.map (·.nodeId) = ["l"] ∧ vs' = []) ∧
    (∃ e : RuleError, Runner.Finds ⟨.warn⟩ (.value rawHome)
        (homeConfigs (["375x812"] ++ "375" :: ["x"]) false) rule [] [e] ∧
      e.text = "Invalid size '" ++ "375" ++ "'") ∧
    ∃ e : RuleError, Runner.Finds ⟨.warn⟩ (.value rawHome) (homeConfigs [] false) rule [] [e] ∧
      e.kind = .optionValidationFailed := by
  obtain ⟨d, hd, hx⟩ := load_rawHome
  obtain ⟨hless, hbad, hnone⟩ := laxer_sizes_report_less ⟨.warn⟩ hd hx
  refine ⟨?_, ?_, hnone (isConfigured_home [] false)⟩
  · have htexts : ∀ s ∈ ["100x20", "375x812"], Size.IsText s := by
      simp [isText_home, isText_phone]
    obtain ⟨vs, vs', hvs, hvs', -, -⟩ := hless (isConfigured_home ["375x812"] false)
      (isConfigured_home ["100x20", "375x812"] false) (by simp) htexts (by simp) id
    have hids : homeIds ["100x20", "375x812"] = .ok [] := rfl
    exact ⟨vs, vs', hvs, hvs', map_nodeId_of_finds homeIds_phone hvs,
      List.map_eq_nil_iff.mp (map_nodeId_of_finds hids hvs')⟩
  · have hparse : Size.parse "375" = .error (.size "375") := rfl
    have hmisspelled : ¬ Size.IsText "375" := by
      rw [← Size.exists_parse_iff, hparse]
      simp
    obtain ⟨e, he, htext, -⟩ := hbad (isConfigured_home (["375x812"] ++ "375" :: ["x"]) false)
      (by simp [isText_phone]) hmisspelled
    exact ⟨e, he, htext⟩

theorem no_sizes_report_less :
    IsConfigured (homeConfigs [] false) ⟨true, none, none, homeOptions [] false⟩ [] false ∧
    IsConfigured (homeConfigs ["375x812"] false)
      ⟨true, none, none, homeOptions ["375x812"] false⟩ ["375x812"] false ∧
    (∀ s ∈ ["375x812"], Size.IsText s) ∧ [] ⊆ ["375x812"] ∧
    ∃ ids ids', homeIds [] = .ok ids ∧ homeIds ["375x812"] = .ok ids' ∧ ¬ ids'.Sublist ids := by
  have hnone : homeIds [] = .ok [] := rfl
  exact ⟨isConfigured_home [] false, isConfigured_home ["375x812"] false, by simp [isText_phone],
    by simp, [], ["l"], hnone, homeIds_phone, by simp⟩

end ArtboardSize

end DesignLint
