import DesignLint.Proofs.Bundled.Reported
import DesignLint.Proofs.RuleOption.Pointwise
import DesignLint.Proofs.Run.Activation

/-! # Limits that are relaxed -/

namespace DesignLint

namespace Runner

variable {r : Runner} {source : Document.Source} {d : Document} {index : Index Layer}
  {configs configs' : Keyed ConfigInput} {rule : Rule} {config config' : RuleConfig}
  {values values' : OptionValues}

/-! ## Valid configurations -/

structure Configures (configs : Keyed ConfigInput) (rule : Rule) (config : RuleConfig)
    (values : OptionValues) : Prop where
  given : ∃ input, configOf configs rule.name = some input ∧
    RuleConfig.coerce rule.name input = .ok config
  options : OptionValues.resolve rule.name rule.options config = .ok values

theorem Configures.invokes (h : Configures configs rule config values)
    (hactive : config.active = true) (r : Runner) (index : Index Layer) :
    Invokes r index configs rule config (contextOf r index rule config values) where
  given := h.given
  active := hactive
  options := h.options
  context := rfl

theorem Configures.finds_inactive (h : Configures configs rule config values)
    (hactive : config.active = false) (hd : Document.load source = .ok d)
    (hx : Index.build (some d.pages) = .ok index) (r : Runner) : r.Finds source configs rule [] [] := by
  obtain ⟨input, hinput, hconfig⟩ := h.given
  exact finds_of_solo hd hx (solo_of_inactive hinput hconfig hactive)

theorem Configures.finds_failed {f : Fault} {s : Session}
    (h : Configures configs rule config values) (hactive : config.active = true)
    (hd : Document.load source = .ok d) (hx : Index.build (some d.pages) = .ok index) (r : Runner)
    (hrun : rule.check.run (contextOf r index rule config values) (Session.start []) = (.error f, s))
    (hstore : s.store = []) (hfatal : f.isFatal = false) :
    r.Finds source configs rule [] [.ofFault rule.name f] := by
  have hsolo : r.solo index configs rule = .ok (.settled (contextOf r index rule config values)
      s.close (some (.ofFault rule.name f))) := by
    rw [(h.invokes hactive r index).solo_eq, settle, hrun]
    simp only [hfatal, rule_contextOf]
    rfl
  have hfinds := finds_of_solo hd hx hsolo
  have hown : (RuleRun.settled (contextOf r index rule config values) s.close
      (some (.ofFault rule.name f))).own = [] := hstore
  rwa [hown] at hfinds

/-! ## Reports up to a failure -/

section Criterion

variable {c : Criterion} {p p' : c.Parameters}
  {verdict : c.Parameters → Layer → Except Fault (List String)}

theorem Configures.finds_judged (h : Configures configs c.rule config values)
    (hactive : config.active = true) (hd : Document.load source = .ok d)
    (hx : Index.build (some d.pages) = .ok index) (r : Runner) (hjudges : c.Judges verdict)
    (hp : c.Reads values p) (hfatal : ∀ l f, verdict p l = .error f → f.isFatal = false) :
    ∃ es, r.Finds source configs c.rule
      ((Check.judged (verdict p) (index.nodes c.kind)).flatMap fun l =>
        (Check.said (verdict p) l).map ((contextOf r index c.rule config values).violationOf l))
      es := by
  have hid := Index.id_ne_of_build hx c.kind
  let x := contextOf r index c.rule config values
  have hrun : c.rule.check.run x (Session.start []) =
      (Check.judge (verdict p) (index.nodes c.kind)).run x (Session.start []) := hjudges rfl hp
  have hstore : ((Check.judge (verdict p) (index.nodes c.kind)).run x (Session.start [])).2.store =
      _ := Check.store_run_judge hid rfl
  have hyield : ((Check.judge (verdict p) (index.nodes c.kind)).run x (Session.start [])).1 = _ :=
    Check.fst_run_judge hid rfl
  rcases hjudge : (Check.judge (verdict p) (index.nodes c.kind)).run x (Session.start [])
    with ⟨yielded, t⟩
  rw [hjudge] at hrun hstore hyield
  have hsolo : r.solo index configs c.rule =
      .ok (.settled x t.close (errorOf c.rule.name yielded)) := by
    rw [(h.invokes hactive r index).solo_eq, settle, hrun]
    cases yielded with
    | ok u => rfl
    | error f =>
      obtain ⟨before, l, after, -, -, hl⟩ :=
        Outcome.mapM_eq_error_iff.mp (Outcome.map_eq_error_iff.mp hyield.symm)
      simp only [hfatal l f hl]
      rfl
  have hfinds := finds_of_solo hd hx hsolo
  have hown : (RuleRun.settled x t.close (errorOf c.rule.name yielded)).own = _ := hstore
  rw [hown] at hfinds
  exact ⟨_, hfinds⟩

/-! ## Reports under two configurations -/

/-- Over a document, a rule reports no other nodes under the second configurations than under the
first, and those that it does in the same order. -/
def ReportsNoMore (r : Runner) (source : Document.Source) (configs configs' : Keyed ConfigInput)
    (rule : Rule) : Prop :=
  ∃ vs vs' es es', r.Finds source configs rule vs es ∧ r.Finds source configs' rule vs' es' ∧
    (vs'.map (·.nodeId)).Sublist (vs.map (·.nodeId))

theorem Configures.reportsNoMore (h : Configures configs c.rule config values)
    (h' : Configures configs' c.rule config' values') (hactive : config'.active = config.active)
    (hd : Document.load source = .ok d) (hx : Index.build (some d.pages) = .ok index) (r : Runner)
    (hjudges : c.Judges verdict) (hjudged : c.JudgedBy verdict)
    (hfatal : ∀ p l f, verdict p l = .error f → f.isFatal = false)
    (hfails : ∀ l, (verdict p' l).isOk = (verdict p l).isOk)
    (hp : c.Reads values p) (hp' : c.Reads values' p') (hless : ∀ l, c.Flags p' l → c.Flags p l) :
    r.ReportsNoMore source configs configs' c.rule := by
  cases hon : config.active with
  | false =>
    exact ⟨[], [], [], [], h.finds_inactive hon hd hx r,
      h'.finds_inactive (hactive.trans hon) hd hx r, List.Sublist.refl _⟩
  | true =>
    obtain ⟨es, hfinds⟩ := h.finds_judged hon hd hx r hjudges hp (hfatal p)
    obtain ⟨es', hfinds'⟩ := h'.finds_judged (hactive.trans hon) hd hx r hjudges hp' (hfatal p')
    rw [Check.judged_congr hfails] at hfinds'
    refine ⟨_, _, es, es', hfinds, hfinds', ?_⟩
    refine Check.nodeIds_said_sublist (hjudged.flags p) (hjudged.flags p')
      (fun l hl => Check.verdict_of_mem_judged hl) (fun l hl => ?_) hless _ _
    rw [← Check.judged_congr hfails] at hl
    exact Check.verdict_of_mem_judged hl

end Criterion

end Runner

/-! ## Steps that fail -/

namespace Check

variable {c : Context} {s : Session} {name : String}

theorem isFatal_of_get {f : Fault} {o : OptionValues} (h : o.get name = .error f) :
    f.isFatal = false := by
  unfold OptionValues.get at h
  split at h
  · cases h
    rfl
  · split at h
    · cases h
    · cases h
      rfl

/-- A step yields something and leaves the session as it is, or fails with a fault that a run
survives. -/
def Settles {α : Type} (p : Check α) (c : Context) (s : Session) : Prop :=
  (∃ a, p.run c s = (.ok a, s)) ∨ ∃ f, p.run c s = (.error f, s) ∧ f.isFatal = false

theorem settles_option (hopen : s.closed = false) : (option name).Settles c s := by
  have hrun : (option name).run c s = (ofResult (c.option s name)).run c s := rfl
  have hoption : c.option s name = c.options.get name := by
    rw [Context.option, if_neg (by simp [hopen])]
  cases hget : c.options.get name with
  | ok v => exact .inl ⟨v, run_option_of_get hopen hget⟩
  | error f => exact .inr ⟨f, by rw [hrun, hoption, hget]; rfl, isFatal_of_get hget⟩

theorem Settles.bind {α β : Type} {p : Check α} {k : α → Check β} (h : p.Settles c s)
    (hk : ∀ a, (k a).Settles c s) : (p >>= k).Settles c s := by
  rcases h with ⟨a, ha⟩ | ⟨f, hf, hfatal⟩
  · rcases hk a with ⟨b, hb⟩ | ⟨f, hf, hfatal⟩
    · exact .inl ⟨b, (run_bind_of_ok ha).trans hb⟩
    · exact .inr ⟨f, (run_bind_of_ok ha).trans hf, hfatal⟩
  · exact .inr ⟨f, run_bind_of_error hf, hfatal⟩

theorem settles_floatOption (name : String) (hopen : s.closed = false) :
    (floatOption name).Settles c s := by
  refine (settles_option hopen).bind fun v => ?_
  split
  · exact .inl ⟨_, rfl⟩
  · exact .inr ⟨_, rfl, rfl⟩

theorem settles_textOption (name : String) (hopen : s.closed = false) :
    (textOption name).Settles c s := by
  refine (settles_option hopen).bind fun v => ?_
  split
  · exact .inl ⟨_, rfl⟩
  · exact .inr ⟨_, rfl, rfl⟩

end Check

/-! ## Symbols -/

namespace TapTarget.Symbol

theorem isFatal_of_readPattern {text : String} {f : Fault} (h : readPattern text = .error f) :
    f.isFatal = false := by
  unfold readPattern at h
  split at h
  · cases h
  · cases h
    rfl
  · cases h
    rfl

theorem run_check_of_not_reads {x : Context} {s : Session} (hopen : s.closed = false)
    (h : ∀ p, ¬ Bundled.symbolCriterion.Reads x.options p) :
    ∃ f, check.run x s = (.error f, s) ∧ f.isFatal = false := by
  rcases Check.settles_floatOption (c := x) "min_size" hopen with
    ⟨least, hleast⟩ | ⟨f, hf, hfatal⟩
  · rcases Check.settles_textOption (c := x) "name_pattern" hopen with
      ⟨text, htext⟩ | ⟨f, hf, hfatal⟩
    · cases hpattern : readPattern text with
      | ok pattern =>
        exact absurd ⟨(Check.options_of_floatOption hopen hleast).1, text,
          (Check.options_of_textOption hopen htext).1, hpattern⟩ (h (least, pattern))
      | error f =>
        refine ⟨f, ?_, isFatal_of_readPattern hpattern⟩
        rw [check, Check.run_bind_of_ok hleast, Check.run_bind_of_ok htext, hpattern]
        rfl
    · refine ⟨f, ?_, hfatal⟩
      rw [check, Check.run_bind_of_ok hleast, Check.run_bind_of_error hf]
  · exact ⟨f, by rw [check, Check.run_bind_of_error hf], hfatal⟩

theorem get_name_pattern {config : RuleConfig} {values : OptionValues} {text : String}
    (h : OptionValues.resolve name rule.options config = .ok values)
    (hkeys : (Keyed.keys config.options).Nodup)
    (hpattern : config.options.get? "name_pattern" = some (.str text)) :
    values.get "name_pattern" = .ok (.str text) := by
  obtain ⟨schema, hschema, hvalues⟩ := Runner.resolve_eq_ok_iff.mp h
  have hdeclared : "name_pattern" ∈ rule.options.map (·.name) := by decide
  obtain ⟨d, a, hd, ha, hread⟩ := OptionValues.reads_of_check hschema hvalues hdeclared hkeys
  cases hd
  cases ha
  rw [hpattern] at hread
  obtain ⟨w, hw, hget⟩ := hread
  cases hw
  exact hget

end TapTarget.Symbol

/-! ## Patterns that do not compile -/

def ConfigInput.givenOptions : ConfigInput → Keyed Json
  | .flat (.obj fields) => RuleConfig.optionsOf fields
  | .flat _ => []
  | .misnamed _ fields => RuleConfig.optionsOf fields
  | .ready c => c.options

theorem ConfigInput.options_of_coerce {given : ConfigInput} {rule : String} {config : RuleConfig}
    (h : RuleConfig.coerce rule given = .ok config) : config.options = given.givenOptions := by
  cases given with
  | flat v =>
    cases v with
    | obj fields => exact (RuleConfig.ofFlatFor_eq_ok_iff.mp h).2.options
    | _ => cases h
  | misnamed keys fields => exact (RuleConfig.ofFlatFor_eq_ok_iff.mp h).2.options
  | ready c =>
    cases h
    rfl

namespace TapTarget.Symbol

open Runner

variable {source : Document.Source} {d : Document} {index : Index Layer}
  {configs : Keyed ConfigInput} {given : ConfigInput} {text : String} {f : Fault}

theorem exists_finds_of_not_reads {config : RuleConfig} {values : OptionValues}
    (h : Configures configs rule config values)
    (hnone : ∀ p, ¬ Bundled.symbolCriterion.Reads values p) (hd : Document.load source = .ok d)
    (hx : Index.build (some d.pages) = .ok index) (r : Runner) :
    ∃ es, r.Finds source configs rule [] es ∧ (config.active = true → ∃ e, es = [e]) := by
  cases hactive : config.active with
  | false => exact ⟨[], h.finds_inactive hactive hd hx r, nofun⟩
  | true =>
    obtain ⟨g, hrun, hfatal⟩ := run_check_of_not_reads
      (x := contextOf r index rule config values) (s := Session.start []) rfl hnone
    exact ⟨_, h.finds_failed hactive hd hx r hrun rfl hfatal, fun _ => ⟨_, rfl⟩⟩

theorem finds_broken (hgiven : configOf configs name = some given)
    (hattempted : isAttempted configs rule = true) (hkeys : (Keyed.keys given.givenOptions).Nodup)
    (hpattern : given.givenOptions.get? "name_pattern" = some (.str text))
    (hbroken : readPattern text = .error f) (hd : Document.load source = .ok d)
    (hx : Index.build (some d.pages) = .ok index) (r : Runner) :
    ∃ e, r.Finds source configs rule [] [e] := by
  have hgiven' : configOf configs rule.name = some given := hgiven
  have hmapping : HasMapping configs rule := by
    intro v hv
    cases hgiven.symm.trans hv
    cases v with
    | obj fields => exact ⟨fields, rfl⟩
    | _ => cases hpattern
  cases hconfig : RuleConfig.coerce rule.name given with
  | error g =>
    obtain ⟨g, rfl⟩ := option_of_coerce hmapping hgiven' hconfig
    exact ⟨_, finds_of_solo hd hx (solo_of_refused hgiven' hconfig)⟩
  | ok config =>
    have hactive : config.active = true := by simpa [isAttempted, hgiven', hconfig] using hattempted
    have hoptions := ConfigInput.options_of_coerce hconfig
    cases hvalues : OptionValues.resolve rule.name rule.options config with
    | error g =>
      obtain ⟨schema, hschema⟩ : ∃ schema, Schema.compile rule.name rule.options = .ok schema :=
        ⟨_, rfl⟩
      rw [OptionValues.resolve_of_compile hschema] at hvalues
      have hsolo : r.solo index configs rule = .ok (.unstarted (.ofFault rule.name g)) := by
        simp only [solo, runRule, hgiven', hconfig, hactive, if_true, start, hschema, hvalues]
      exact ⟨_, finds_of_solo hd hx hsolo⟩
    | ok values =>
      have hvalid : Configures configs rule config values := ⟨⟨given, hgiven', hconfig⟩, hvalues⟩
      have hget : values.get "name_pattern" = .ok (.str text) :=
        get_name_pattern hvalues (by rwa [hoptions]) (by rwa [hoptions])
      have hnot : ∀ p, ¬ Bundled.symbolCriterion.Reads values p := by
        rintro p ⟨-, text', htext', hp⟩
        cases hget.symm.trans htext'
        cases hbroken.symm.trans hp
      obtain ⟨es, hfinds, hone⟩ := exists_finds_of_not_reads hvalid hnot hd hx r
      obtain ⟨e, rfl⟩ := hone hactive
      exact ⟨e, hfinds⟩

end TapTarget.Symbol

/-! ## The law -/

namespace Bundled

open Runner

variable {source : Document.Source} {d : Document} {index : Index Layer}

theorem isLarge_of_le {least least' : Float} {l : Layer} (hle : least' ≤ least)
    (h : IsLarge least l) : IsLarge least' l :=
  ⟨FloatOrder.le_trans hle h.1, FloatOrder.le_trans hle h.2⟩

theorem isFatal_of_textFont {l : Layer} {f : Fault} (h : textFont l = .error f) :
    f.isFatal = false := by
  unfold textFont at h
  split at h
  · cases h
  · cases h
    rfl

section

variable {configs configs' : Keyed ConfigInput} {config config' : RuleConfig}
  {values values' : OptionValues}

theorem symbol_reportsNoMore {least least' : Float}
    (h : Configures configs TapTarget.Symbol.rule config values)
    (h' : Configures configs' TapTarget.Symbol.rule config' values')
    (hactive : config'.active = config.active)
    (hleast : values.get "min_size" = .ok (.float least))
    (hleast' : values'.get "min_size" = .ok (.float least')) (hle : least' ≤ least)
    (hpattern : values'.get "name_pattern" = values.get "name_pattern")
    (hd : Document.load source = .ok d) (hx : Index.build (some d.pages) = .ok index) (r : Runner) :
    r.ReportsNoMore source configs configs' TapTarget.Symbol.rule := by
  by_cases hreads : ∃ p, symbolCriterion.Reads values p
  · obtain ⟨⟨m, pattern⟩, hm, hnamed⟩ := hreads
    cases hleast.symm.trans hm
    have hok : ∀ m node l, (TapTarget.Symbol.verdict m node l).isOk = true := fun _ _ _ => rfl
    have hreads' : symbolCriterion.Reads values' (least', pattern) :=
      ⟨hleast', by rwa [hpattern]⟩
    refine Configures.reportsNoMore (c := symbolCriterion) (p := (least, pattern)) h h' hactive hd hx
      r symbol_judges symbol_judgedBy ?_ (fun l => (hok _ _ l).trans (hok _ _ l).symm)
      ⟨hleast, hnamed⟩ hreads' ?_
    · rintro ⟨m, p⟩ l f ⟨⟩
    · exact fun l hl => ⟨hl.1, fun hlarge => hl.2 (isLarge_of_le hle hlarge)⟩
  · have hnone' : ∀ p, ¬ symbolCriterion.Reads values' p := by
      rintro p ⟨-, hnamed⟩
      exact hreads ⟨(least, p.2), hleast, by rwa [hpattern] at hnamed⟩
    obtain ⟨es, hfinds, -⟩ :=
      TapTarget.Symbol.exists_finds_of_not_reads h (not_exists.mp hreads) hd hx r
    obtain ⟨es', hfinds', -⟩ := TapTarget.Symbol.exists_finds_of_not_reads h' hnone' hd hx r
    exact ⟨[], [], es, es', hfinds, hfinds', List.Sublist.refl _⟩

theorem interactive_reportsNoMore {least least' : Float}
    (h : Configures configs TapTarget.Interactive.rule config values)
    (h' : Configures configs' TapTarget.Interactive.rule config' values')
    (hactive : config'.active = config.active)
    (hleast : values.get "min_size" = .ok (.float least))
    (hleast' : values'.get "min_size" = .ok (.float least')) (hle : least' ≤ least)
    (hd : Document.load source = .ok d) (hx : Index.build (some d.pages) = .ok index) (r : Runner) :
    r.ReportsNoMore source configs configs' TapTarget.Interactive.rule := by
  have hok : ∀ m l, (TapTarget.Interactive.verdict m l).isOk = true := fun _ _ => rfl
  have hreads' : interactiveCriterion.Reads values' least' := hleast'
  refine Configures.reportsNoMore (c := interactiveCriterion) (p := least) h h' hactive hd hx r
    interactive_judges interactive_judgedBy ?_ (fun l => (hok _ l).trans (hok _ l).symm) hleast
    hreads' ?_
  · rintro m l f ⟨⟩
  · exact fun l hl => ⟨hl.1, fun hlarge => hl.2 (isLarge_of_le hle hlarge)⟩

theorem weight_reportsNoMore {allowed allowed' : List String}
    (h : Configures configs FontWeight.rule config values)
    (h' : Configures configs' FontWeight.rule config' values')
    (hactive : config'.active = config.active)
    (hallowed : values.get "pattern" = .ok (.texts allowed))
    (hallowed' : values'.get "pattern" = .ok (.texts allowed')) (hmore : allowed ⊆ allowed')
    (hd : Document.load source = .ok d) (hx : Index.build (some d.pages) = .ok index) (r : Runner) :
    r.ReportsNoMore source configs configs' FontWeight.rule := by
  have hok : ∀ weights l, (FontWeight.verdict weights l).isOk = (textFont l).isOk := by
    intro weights l
    rw [FontWeight.verdict]
    cases textFont l <;> rfl
  have hreads' : weightCriterion.Reads values' allowed' := hallowed'
  refine Configures.reportsNoMore (c := weightCriterion) (p := allowed) h h' hactive hd hx r
    weight_judges weight_judgedBy ?_ (fun l => (hok _ l).trans (hok _ l).symm) hallowed hreads' ?_
  · intro weights l f hf
    exact isFatal_of_textFont (Outcome.map_eq_error_iff.mp hf)
  · exact fun l hl w hw hmem => hl w hw (hmore hmem)

end

/-- Under a lower minimum or with more weights a rule reports no other nodes, and those that it does
in the same order. Under a pattern that does not compile it reports nothing and fails once. -/
theorem laxer_limits_report_less (r : Runner) (hd : Document.load source = .ok d)
    (hx : ∃ index, Index.build (some d.pages) = .ok index) :
    (∀ {configs configs' config config' values values'} {least least' : Float},
      Configures configs TapTarget.Symbol.rule config values →
      Configures configs' TapTarget.Symbol.rule config' values' →
      config'.active = config.active → values.get "min_size" = .ok (.float least) →
      values'.get "min_size" = .ok (.float least') → least' ≤ least →
      values'.get "name_pattern" = values.get "name_pattern" →
      r.ReportsNoMore source configs configs' TapTarget.Symbol.rule) ∧
    (∀ {configs configs' config config' values values'} {least least' : Float},
      Configures configs TapTarget.Interactive.rule config values →
      Configures configs' TapTarget.Interactive.rule config' values' →
      config'.active = config.active → values.get "min_size" = .ok (.float least) →
      values'.get "min_size" = .ok (.float least') → least' ≤ least →
      r.ReportsNoMore source configs configs' TapTarget.Interactive.rule) ∧
    (∀ {configs configs' config config' values values'} {allowed allowed' : List String},
      Configures configs FontWeight.rule config values →
      Configures configs' FontWeight.rule config' values' →
      config'.active = config.active → values.get "pattern" = .ok (.texts allowed) →
      values'.get "pattern" = .ok (.texts allowed') → allowed ⊆ allowed' →
      r.ReportsNoMore source configs configs' FontWeight.rule) ∧
    (∀ {configs given text f}, configOf configs TapTarget.Symbol.name = some given →
      isAttempted configs TapTarget.Symbol.rule = true →
      (Keyed.keys given.givenOptions).Nodup →
      given.givenOptions.get? "name_pattern" = some (.str text) →
      TapTarget.Symbol.readPattern text = .error f →
      ∃ e, r.Finds source configs TapTarget.Symbol.rule [] [e]) := by
  obtain ⟨index, hx⟩ := hx
  refine ⟨?_, ?_, ?_, ?_⟩
  · intro _ _ _ _ _ _ _ _ h h' hactive hleast hleast' hle hpattern
    exact symbol_reportsNoMore h h' hactive hleast hleast' hle hpattern hd hx r
  · intro _ _ _ _ _ _ _ _ h h' hactive hleast hleast' hle
    exact interactive_reportsNoMore h h' hactive hleast hleast' hle hd hx r
  · intro _ _ _ _ _ _ _ _ h h' hactive hallowed hallowed' hmore
    exact weight_reportsNoMore h h' hactive hallowed hallowed' hmore hd hx r
  · intro _ _ _ _ hgiven hattempted hkeys hpattern hbroken
    exact TapTarget.Symbol.finds_broken hgiven hattempted hkeys hpattern hbroken hd hx r

/-! ## A button and a text -/

def rawElement (cls id : String) (fields : Keyed Json) : Json :=
  .obj ([("_class", .str cls), ("do_objectID", .str id),
    ("frame", .obj [("width", .whole 100), ("height", .whole 20)])] ++ fields)

def rawShop : Json :=
  Document.rawDocument [Document.rawLayer "_class" (.str "page") "p" [
    rawElement "symbolInstance" "s" [("name", .str "Button"),
      ("flow", .obj [("destinationArtboardID", .str "home")])],
    rawElement "text" "t" [("style", .obj [("textStyle", .obj [("encodedAttributes", .obj [
      ("MSAttributedStringFontAttribute", .obj [("attributes",
        .obj [("name", .str "Inter-Bold"), ("size", .whole 12)])])])])])]]]

theorem load_rawShop : ∃ d, Document.load (.value rawShop) = .ok d ∧
    ∃ index, Index.build (some d.pages) = .ok index := by
  have hbuilt : ((Document.load (.value rawShop)).bind fun d =>
      Index.build (some d.pages)).isOk = true := by decide +kernel
  obtain ⟨index, hindex⟩ := Outcome.exists_of_isOk hbuilt
  obtain ⟨d, hd, hx⟩ := Outcome.bind_eq_ok_iff.mp hindex
  exact ⟨d, hd, index, hx⟩

def shopConfigs (rule : Rule) (options : Keyed Json) : Keyed ConfigInput :=
  [(rule.name, .flat (.obj options))]

def valuesOf (rule : Rule) (values : Keyed Json) : OptionValues :=
  ⟨rule.name, rule.options.map (·.name), values⟩

theorem configures_shop {rule : Rule} (options : Keyed Json) {values : Keyed Json}
    (hform : RuleConfig.Says ⟨true, none, none, options⟩ options)
    (hvalues : OptionValues.resolve rule.name rule.options ⟨true, none, none, options⟩ =
      .ok (valuesOf rule values)) :
    Configures (shopConfigs rule options) rule ⟨true, none, none, options⟩ (valuesOf rule values) where
  given := ⟨.flat (.obj options), by simp [configOf, shopConfigs, Keyed.get?_cons, Json.isNull],
    RuleConfig.ofFlatFor_eq_ok_iff.mpr ⟨rfl, hform⟩⟩
  options := hvalues

def shopIds (rule : Rule) (options : Keyed Json) : Option (List String) :=
  ((Runner.run ⟨.warn⟩ (.value rawShop) [rule] (shopConfigs rule options)).map fun report =>
    report.result.violations.map (·.nodeId)).toOption

theorem map_nodeId_of_finds {rule : Rule} {options : Keyed Json} {ids : List String}
    {vs : List Violation} {es : List RuleError} (hids : shopIds rule options = some ids)
    (h : Finds ⟨.warn⟩ (.value rawShop) (shopConfigs rule options) rule vs es) :
    vs.map (·.nodeId) = ids := by
  obtain ⟨report, hreport, rfl, -⟩ := h.alone
  rw [shopIds, hreport] at hids
  exact Option.some.inj hids

def sizeOptions (least : Int) : Keyed Json := [("min_size", .whole least)]

def symbolOptions (least : Int) (pattern : String) : Keyed Json :=
  [("min_size", .whole least), ("name_pattern", .str pattern)]

def weightOptions (allowed : List String) : Keyed Json := [("pattern", .texts allowed)]

def symbolValues (least : Float) (pattern : String) : OptionValues :=
  valuesOf TapTarget.Symbol.rule [("min_size", .float least), ("name_pattern", .str pattern)]

theorem get_symbolValues (least : Float) (pattern : String) :
    (symbolValues least pattern).get "name_pattern" = .ok (.str pattern) := rfl

theorem laxer_limits_report_less_rawShop :
    (∃ vs vs' es es',
      Finds ⟨.warn⟩ (.value rawShop) (shopConfigs TapTarget.Symbol.rule (symbolOptions 44 "but+on"))
        TapTarget.Symbol.rule vs es ∧
      Finds ⟨.warn⟩ (.value rawShop) (shopConfigs TapTarget.Symbol.rule (symbolOptions 20 "but+on"))
        TapTarget.Symbol.rule vs' es' ∧ vs.map (·.nodeId) = ["s"] ∧ vs'.map (·.nodeId) = []) ∧
    (∃ vs vs' es es',
      Finds ⟨.warn⟩ (.value rawShop) (shopConfigs TapTarget.Interactive.rule (sizeOptions 44))
        TapTarget.Interactive.rule vs es ∧
      Finds ⟨.warn⟩ (.value rawShop) (shopConfigs TapTarget.Interactive.rule (sizeOptions 20))
        TapTarget.Interactive.rule vs' es' ∧ vs.map (·.nodeId) = ["s"] ∧
      vs'.map (·.nodeId) = []) ∧
    (∃ vs vs' es es',
      Finds ⟨.warn⟩ (.value rawShop) (shopConfigs FontWeight.rule (weightOptions ["Regular"]))
        FontWeight.rule vs es ∧
      Finds ⟨.warn⟩ (.value rawShop) (shopConfigs FontWeight.rule (weightOptions ["Regular", "Bold"]))
        FontWeight.rule vs' es' ∧ vs.map (·.nodeId) = ["t"] ∧ vs'.map (·.nodeId) = []) ∧
    ∃ e, Finds ⟨.warn⟩ (.value rawShop) (shopConfigs TapTarget.Symbol.rule (symbolOptions 44 "("))
      TapTarget.Symbol.rule [] [e] := by
  obtain ⟨d, hd, hx⟩ := load_rawShop
  obtain ⟨hsymbol, hinteractive, hweight, hbroken⟩ := laxer_limits_report_less ⟨.warn⟩ hd hx
  have hsmaller : (20 : Float) ≤ 44 := by decide
  refine ⟨?_, ?_, ?_, ?_⟩
  · have h : Configures _ TapTarget.Symbol.rule _ (symbolValues 44 "but+on") :=
      configures_shop (symbolOptions 44 "but+on") ⟨rfl, rfl, rfl, rfl⟩ rfl
    have h' : Configures _ TapTarget.Symbol.rule _ (symbolValues 20 "but+on") :=
      configures_shop (symbolOptions 20 "but+on") ⟨rfl, rfl, rfl, rfl⟩ rfl
    obtain ⟨vs, vs', es, es', hvs, hvs', -⟩ := hsymbol h h' rfl rfl rfl hsmaller
      ((get_symbolValues _ _).trans (get_symbolValues _ _).symm)
    exact ⟨vs, vs', es, es', hvs, hvs', map_nodeId_of_finds (by decide +kernel) hvs,
      map_nodeId_of_finds (by decide +kernel) hvs'⟩
  · have h : Configures _ TapTarget.Interactive.rule _ (valuesOf _ [("min_size", .float 44)]) :=
      configures_shop (sizeOptions 44) ⟨rfl, rfl, rfl, rfl⟩ rfl
    have h' : Configures _ TapTarget.Interactive.rule _ (valuesOf _ [("min_size", .float 20)]) :=
      configures_shop (sizeOptions 20) ⟨rfl, rfl, rfl, rfl⟩ rfl
    obtain ⟨vs, vs', es, es', hvs, hvs', -⟩ := hinteractive h h' rfl rfl rfl hsmaller
    exact ⟨vs, vs', es, es', hvs, hvs', map_nodeId_of_finds (by decide +kernel) hvs,
      map_nodeId_of_finds (by decide +kernel) hvs'⟩
  · have h : Configures _ FontWeight.rule _ (valuesOf _ (weightOptions ["Regular"])) :=
      configures_shop (weightOptions ["Regular"]) ⟨rfl, rfl, rfl, rfl⟩ rfl
    have h' : Configures _ FontWeight.rule _ (valuesOf _ (weightOptions ["Regular", "Bold"])) :=
      configures_shop (weightOptions ["Regular", "Bold"]) ⟨rfl, rfl, rfl, rfl⟩ rfl
    obtain ⟨vs, vs', es, es', hvs, hvs', -⟩ := hweight h h' rfl rfl rfl (by simp)
    exact ⟨vs, vs', es, es', hvs, hvs', map_nodeId_of_finds (by decide +kernel) hvs,
      map_nodeId_of_finds (by decide +kernel) hvs'⟩
  · have hunread : (TapTarget.Symbol.readPattern "(").isOk = false := by decide +kernel
    cases hread : TapTarget.Symbol.readPattern "(" with
    | ok pattern =>
      rw [hread] at hunread
      cases hunread
    | error f => exact hbroken rfl rfl (by decide) rfl hread

end Bundled

end DesignLint
