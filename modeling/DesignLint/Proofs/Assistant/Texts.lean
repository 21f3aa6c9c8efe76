import DesignLint.Proofs.Assistant.Listing
import DesignLint.Proofs.RuleOption.Forms

/-! # Texts in listings -/

namespace DesignLint

/-! ## Rules that can be listed -/

/-- The options of a rule make a schema, and its texts can be made of any values that fit. -/
structure Rule.IsPresentable (rule : Rule) : Prop where
  schema : ∃ schema, Schema.compile rule.name rule.options = .ok schema
  title : ∀ values, Declaration.Fits rule.options values → ∃ s, rule.title.render values = .ok s
  description : ∀ values, Declaration.Fits rule.options values →
    ∃ s, rule.description.render values = .ok s

theorem Schema.exists_describe_of_compile {rule : String} {declared : List Declaration}
    {schema : Schema} (h : compile rule declared = .ok schema) :
    ∃ l, declared.mapM Declaration.describe = .ok l := by
  unfold compile at h
  split at h
  · cases h
  · rename_i hnone
    refine Outcome.exists_mapM_eq_ok_iff.mpr fun d hd => ?_
    have hknown : d.type.isKnown = true := by simpa using List.find?_eq_none.mp hnone d hd
    rw [Declaration.describe, if_pos hknown]
    exact ⟨_, rfl⟩

theorem RuleText.exists_isFixed {t : RuleText} {declared : List Declaration}
    (h : ∀ values, Declaration.Fits declared values → ∃ s, t.render values = .ok s) :
    ∃ b, t.isFixed = .ok b := by
  cases t with
  | fixed s => exact ⟨true, rfl⟩
  | derived render => exact ⟨false, rfl⟩
  | unusable kind =>
    obtain ⟨s, hs⟩ := h [] (by rintro name d w - ⟨⟩)
    cases hs

namespace Engine

variable {rule : Rule} {config : ConfigInput} {keys : List Json} {flat : Keyed Json}

theorem valuesOf_cases (h : rule.IsPresentable) (hflat : config.flat? = some (keys, flat))
    (hdistinct : (Keyed.keys flat).Nodup) :
    (∃ o, valuesOf rule config = .ok o ∧ Declaration.Fits rule.options o.values) ∨
      ∃ f, valuesOf rule config = .error (.option f) := by
  obtain ⟨schema, hschema⟩ := h.schema
  obtain ⟨hread, hrefused⟩ := ConfigInput.coerce_flat rule.name hflat
  by_cases hfits : keys = [] ∧ RuleConfig.Fits flat
  · obtain ⟨c, hc, hflatOf⟩ := hread hfits
    have hvalues : valuesOf rule config = OptionValues.check rule.name rule.options schema c := by
      rw [valuesOf, hc, hschema]
      rfl
    rw [hvalues]
    cases hcheck : OptionValues.check rule.name rule.options schema c with
    | ok o =>
      have hoptions : (Keyed.keys c.options).Nodup := by
        rw [hflatOf.options, RuleConfig.optionsOf, Keyed.keys_only]
        exact hdistinct.filter _
      exact .inl ⟨o, rfl, OptionValues.fits_of_check hschema hcheck hoptions⟩
    | error f =>
      unfold OptionValues.check at hcheck
      split at hcheck
      · cases hcheck
      · cases hcheck
        exact .inr ⟨_, rfl⟩
  · obtain ⟨problems, hproblems⟩ := hrefused hfits
    refine .inr ⟨.invalid rule.name problems, ?_⟩
    rw [valuesOf, hproblems]
    rfl

inductive Presents (rule : Rule) (config : ConfigInput) : String × String → Prop
  | rendered (o : OptionValues) (title description : String)
      (hvalues : valuesOf rule config = .ok o) (htitle : rule.title.render o.values = .ok title)
      (hdescription : rule.description.render o.values = .ok description) :
      Presents rule config (title, description)
  /-- The options do not fit, so only texts that do not depend on them are left. -/
  | plain (f : OptionFault) (hvalues : valuesOf rule config = .error (.option f)) :
      Presents rule config (plainTexts rule)

theorem exists_texts (h : rule.IsPresentable) (hflat : config.flat? = some (keys, flat))
    (hdistinct : (Keyed.keys flat).Nodup) (m : Memory) :
    ∃ p, ((texts rule config).run m).1 = .ok p ∧ Presents rule config p := by
  obtain ⟨b, hb⟩ := RuleText.exists_isFixed h.title
  obtain ⟨c, hc⟩ := RuleText.exists_isFixed h.description
  rw [texts, Work.run_ofResult_bind, hb]
  dsimp only [Except.bind]
  rw [Work.run_ofResult_bind, hc]
  dsimp only [Except.bind]
  rcases valuesOf_cases h hflat hdistinct with ⟨o, ho, hfits⟩ | ⟨f, hf⟩
  · obtain ⟨title, htitle⟩ := h.title _ hfits
    obtain ⟨description, hdescription⟩ := h.description _ hfits
    refine ⟨(title, description), ?_, .rendered o title description ho htitle hdescription⟩
    rw [ho]
    dsimp only
    rw [Work.run_ofResult_bind, htitle]
    dsimp only [Except.bind]
    rw [Work.run_ofResult_bind, hdescription]
    rfl
  · refine ⟨plainTexts rule, ?_, .plain f hf⟩
    rw [hf]
    rfl

end Engine

/-! ## Titles -/

/-- The title that layers give a rule: what the last of them says under the first of the two keys for
which that is given at all. -/
def Layers.givenTitle? (layers : List (Keyed Json)) (rule : String) : Option Json :=
  (["rule_title", "ruleTitle"].filterMap (lastValue? layers rule)).find? (·.isGiven)

def Layers.GiveTexts (layers : List (Keyed Json)) (rules : List Rule) : Prop :=
  ∀ rule ∈ rules, ∀ v, givenTitle? layers rule.name = some v → ∃ s, v = .str s

namespace Engine

variable {e : Engine} {files : Files} {overrides : Json} {m : Memory} {file given : Keyed Json}
  {layers : List (Keyed Json)} {merged : Keyed (Keyed Json)} {listing : RuleListing}

/-- A listing shows a rule with the title that layers give, and else with the one of its texts. -/
structure Shows (e : Engine) (layers : List (Keyed Json)) (merged : Keyed (Keyed Json))
    (rule : Rule) (listing : RuleListing) : Prop where
  lists : Lists merged rule listing
  texts : ∃ title, Presents rule (e.given merged rule) (title, listing.description) ∧
    listing.title = (Layers.givenTitle? layers rule.name).getD (.str title)

theorem Shows.title_iff (h : e.Shows layers merged rule listing) :
    (∃ s, listing.title = .str s) ↔
      ∀ v, Layers.givenTitle? layers rule.name = some v → ∃ s, v = .str s := by
  obtain ⟨title, -, htitle⟩ := h.texts
  rw [htitle]
  cases Layers.givenTitle? layers rule.name <;> simp

theorem givenTitle?_of_merges (hmerges : Layers.Merges e.assistant.ruleNames layers merged)
    (hrule : rule ∈ e.assistant.rules) :
    (["rule_title", "ruleTitle"].filterMap ((merged.get? rule.name).getD []).get?).find?
      (·.isGiven) = Layers.givenTitle? layers rule.name := by
  have hvalue : ((merged.get? rule.name).getD []).get? = Layers.lastValue? layers rule.name := by
    funext key
    rw [← hmerges.values rule.name (List.mem_map_of_mem hrule) key, Layers.valueOf?]
    cases merged.get? rule.name <;> rfl
  rw [hvalue, Layers.givenTitle?]

theorem given_eq (e : Engine) (merged : Keyed (Keyed Json)) (rule : Rule) :
    (if (merged.get? rule.name).isSome then e.input rule.name ((merged.get? rule.name).getD [])
      else .flat (.obj [])) = e.given merged rule := by
  unfold Engine.given
  cases merged.get? rule.name <;> rfl

theorem exists_listing (h : rule.IsPresentable)
    (hmerges : Layers.Merges e.assistant.ruleNames layers merged)
    (hrule : rule ∈ e.assistant.rules) (m : Memory) :
    ∃ listing, ((e.listing rule (merged.get? rule.name)).run m).1 = .ok listing ∧
      e.Shows layers merged rule listing := by
  obtain ⟨keys, hflat⟩ := e.flat?_given merged rule
  have hdistinct : (Keyed.keys ((merged.get? rule.name).getD [])).Nodup := by
    cases hget : merged.get? rule.name with
    | none => exact List.nodup_nil
    | some flat => exact hmerges.distinct _ (Keyed.mem_of_get? hget)
  obtain ⟨⟨title, description⟩, htexts, hpresents⟩ := exists_texts h hflat hdistinct m
  obtain ⟨schema, hschema⟩ := h.schema
  obtain ⟨options, hoptions⟩ := Schema.exists_describe_of_compile hschema
  obtain ⟨active, hactive⟩ : ∃ b, (if (merged.get? rule.name).isSome
      then (e.given merged rule).isActive else .ok false) = .ok b := by
    rw [ConfigInput.isActive_of_flat? hflat]
    split <;> exact ⟨_, rfl⟩
  have hrun : (Engine.texts rule (e.given merged rule)).run m = (.ok (title, description), _) :=
    Prod.ext htexts rfl
  have hlisting : ((e.listing rule (merged.get? rule.name)).run m).1 = .ok {
      name := rule.name
      title := firstGiven (["rule_title", "ruleTitle"].filterMap
        ((merged.get? rule.name).getD []).get?) (.str title)
      description, active, options
      config := (Declaration.defaults rule.options).merge
        (RuleConfig.optionsOf ((merged.get? rule.name).getD [])) } := by
    rw [Engine.listing]
    dsimp only
    rw [given_eq, Work.run_bind, hrun]
    dsimp only
    rw [Work.run_ofResult_bind, hactive]
    dsimp only [Except.bind]
    rw [Work.run_ofResult_bind, hoptions]
    rfl
  refine ⟨_, hlisting, lists_of_listing hlisting, title, hpresents, ?_⟩
  exact congrArg (·.getD (.str title)) (givenTitle?_of_merges hmerges hrule)

/-! ## Whole listings -/

theorem titles_iff {rules : List Rule} {listings : List RuleListing}
    (h : List.Forall₂ (e.Shows layers merged) rules listings) :
    (∀ l ∈ listings, ∃ s, l.title = .str s) ↔ Layers.GiveTexts layers rules := by
  unfold Layers.GiveTexts
  induction h with
  | nil => simp
  | cons hshows _ ih =>
    rw [List.forall_mem_cons, List.forall_mem_cons]
    exact and_congr hshows.title_iff ih

/-- All rules are described under every configuration that can be resolved, in the order in which
they run. -/
theorem exists_describe (hf : e.Finds files overrides m file given)
    (hnames : e.assistant.ruleNames.Nodup)
    (hrules : ∀ rule ∈ e.assistant.rules, rule.IsPresentable) :
    ∃ merged listings, ((e.resolve files overrides).run m).1 = .ok merged ∧
      ((e.describe files overrides).run m).1 = .ok listings ∧
      List.Forall₂ (e.Shows (e.layers file given) merged) e.assistant.rules listings := by
  have hmerges := Layers.merges_overlayAll e.assistant.ruleNames hf.isLayer
  have hresolve : (e.resolve files overrides).run m = (.ok _, _) := Prod.ext (run_resolve hf) rfl
  have hregistry : e.assistant.registry = .ok ⟨e.assistant.rules⟩ :=
    (Registry.ofList_eq_ok_iff _ _).mpr ⟨rfl, hnames⟩
  have hlist := fun rule hrule => exists_listing (hrules rule hrule) hmerges hrule
  obtain ⟨listings, hlistings⟩ := Work.exists_run_mapM
    (fun rule hrule m => (hlist rule hrule m).imp fun _ => And.left)
    ((e.resolve files overrides).run m).2
  refine ⟨_, listings, run_resolve hf, ?_, ?_⟩
  · rw [describe, Work.run_bind, hresolve]
    dsimp only
    rw [Work.run_ofResult_bind, hregistry]
    exact hlistings
  · have hall := (List.forall₂_and_left (p := (· ∈ e.assistant.rules)) _ _).mpr
      ⟨fun _ h => h, Work.forall₂_of_run_mapM hlistings⟩
    refine hall.imp ?_
    rintro rule listing ⟨hrule, m', hlisting⟩
    obtain ⟨shown, hshown, hshows⟩ := hlist rule hrule m'
    cases hlisting.symm.trans hshown
    exact hshows

end Engine

end DesignLint
