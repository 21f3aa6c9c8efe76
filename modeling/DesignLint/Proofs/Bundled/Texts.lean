import DesignLint.Proofs.Assistant.Texts
import DesignLint.Proofs.Bundled.Defaults

/-! # Texts of the bundled rules -/

namespace DesignLint

/-! ## Texts made of options -/

namespace TapTarget

variable {subject : String} {declared : List Declaration} {values : Keyed Json}

theorem exists_title {d : Declaration} (hd : Declaration.named? declared "min_size" = some d)
    (htype : d.type = .number) (h : Declaration.Fits declared values) :
    ∃ s, (title subject).render values = .ok s := by
  rw [title, RuleText.render]
  cases hget : values.get? "min_size" with
  | none => exact ⟨_, rfl⟩
  | some v =>
    have hforms := h _ d v hd hget
    rw [htype] at hforms
    cases hforms with
    | number x => exact ⟨_, rfl⟩

end TapTarget

namespace FontWeight

theorem joinable_texts (l : List String) : Fault.joinable (.texts l) = .ok l := by
  have hgo : ∀ i, Fault.joinable.go i (l.map .str) = .ok l := by
    induction l with
    | nil => exact fun i => rfl
    | cons s l ih =>
      intro i
      rw [List.map_cons, Fault.joinable.go, ih]
      rfl
  exact hgo 0

theorem exists_description {values : Keyed Json} (h : Declaration.Fits rule.options values) :
    ∃ s, rule.description.render values = .ok s := by
  have hallowed : ∃ s, allowedText values = .ok s := by
    rw [allowedText]
    cases hget : values.get? "pattern" with
    | none => exact ⟨"", rfl⟩
    | some v =>
      have hforms := h "pattern" _ v rfl hget
      cases hforms with
      | stringArray l =>
        dsimp only [Option.getD_some]
        rw [joinable_texts]
        split <;> exact ⟨_, rfl⟩
  obtain ⟨s, hs⟩ := hallowed
  exact ⟨_, Outcome.map_eq_ok_iff.mpr ⟨s, hs, rfl⟩⟩

end FontWeight

/-! ## All bundled rules -/

namespace Bundled

theorem exists_schema {rule : Rule} (h : rule ∈ rules) :
    ∃ schema, Schema.compile rule.name rule.options = .ok schema := by
  obtain ⟨e, he, rfl⟩ := List.mem_map.mp (map_pageFaults ▸ h)
  obtain ⟨values, hstarts⟩ := exists_starts he
  obtain ⟨_, _, schema, -, -, -, hschema, -⟩ := hstarts
  exact ⟨schema, hschema⟩

theorem exists_title {values : Keyed Json} : ∀ rule ∈ rules, Declaration.Fits rule.options values →
    ∃ s, rule.title.render values = .ok s := by
  simp only [rules, List.forall_mem_cons, List.not_mem_nil, false_implies, implies_true, and_true]
  exact ⟨fun _ => ⟨_, rfl⟩, TapTarget.exists_title rfl rfl, TapTarget.exists_title rfl rfl,
    fun _ => ⟨_, rfl⟩, fun _ => ⟨_, rfl⟩, fun _ => ⟨_, rfl⟩, fun _ => ⟨_, rfl⟩⟩

theorem exists_description {values : Keyed Json} : ∀ rule ∈ rules,
    Declaration.Fits rule.options values → ∃ s, rule.description.render values = .ok s := by
  simp only [rules, List.forall_mem_cons, List.not_mem_nil, false_implies, implies_true, and_true]
  exact ⟨fun _ => ⟨_, rfl⟩, fun _ => ⟨_, rfl⟩, fun _ => ⟨_, rfl⟩, fun _ => ⟨_, rfl⟩,
    fun _ => ⟨_, rfl⟩, FontWeight.exists_description, fun _ => ⟨_, rfl⟩⟩

theorem isPresentable {rule : Rule} (h : rule ∈ rules) : rule.IsPresentable where
  schema := exists_schema h
  title _ := exists_title rule h
  description _ := exists_description rule h

/-- There is a listing for each bundled rule, whatever the layers say. -/
theorem exists_describe {e : Engine} {files : Files} {overrides : Json} {m : Memory}
    {file given : Keyed Json} (hbundled : e.assistant = assistant)
    (hf : e.Finds files overrides m file given) :
    ∃ merged listings, ((e.resolve files overrides).run m).1 = .ok merged ∧
      ((e.describe files overrides).run m).1 = .ok listings ∧
      List.Forall₂ (e.Shows (e.layers file given) merged) rules listings := by
  have hrules : e.assistant.rules = rules := by rw [hbundled]; rfl
  have hnames : e.assistant.ruleNames.Nodup := by
    rw [Assistant.ruleNames, hrules]
    exact nodup_rules
  have hpresentable : ∀ rule ∈ e.assistant.rules, rule.IsPresentable := by
    rw [hrules]
    exact fun _ => isPresentable
  rw [← hrules]
  exact Engine.exists_describe hf hnames hpresentable

/-! ## The default configurations -/

theorem isLayer_config : IsLayer config where
  names := by decide
  flat := by simp [config, Keyed.keys]

theorem giveTexts_config : Layers.GiveTexts [config, [], []] rules := by
  simp only [Layers.GiveTexts, rules, List.forall_mem_cons, List.not_mem_nil,
    false_implies, implies_true, and_true]
  refine ⟨?_, ?_, ?_, ?_, ?_, ?_, ?_⟩ <;> rintro v ⟨⟩ <;> exact ⟨_, rfl⟩

end Bundled

end DesignLint
