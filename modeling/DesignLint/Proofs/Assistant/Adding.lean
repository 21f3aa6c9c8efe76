import DesignLint.Bundled.Ellipsis
import DesignLint.Proofs.Assistant.Rules

/-! # Adding a rule -/

namespace DesignLint.Assistant

variable {a b : Assistant} {rule : Rule} {given : Given}

/-! ## What adding can come to -/

/-- The ways in which adding a rule ends, each with the outcome and the assistant that it leaves. -/
inductive Ends (a : Assistant) (rule : Rule) (given : Given) :
    Except Fault Unit → Assistant → Prop
  | taken (h : rule.name ∈ a.ruleNames) : Ends a rule given (.error (.duplicateRule rule.name)) a
  | misfit {f : Fault} (hnew : rule.name ∉ a.ruleNames) (hf : given = .value (.error f)) :
    Ends a rule given (.error f) { a with rules := a.rules ++ [rule] }
  | plain (hnew : rule.name ∉ a.ruleNames) (hnothing : given = .nothing) :
    Ends a rule given (.ok ()) { a with rules := a.rules ++ [rule] }
  | configured {pairs : List (Json × Json)} (hnew : rule.name ∉ a.ruleNames)
    (hpairs : given = .value (.ok pairs)) :
    Ends a rule given (.ok ()) { a with
      rules := a.rules ++ [rule]
      config := a.config.put rule.name
        (.obj (Keyed.ofPairs (pairs.map fun e => (e.1.keyText, e.2))))
      misnamed := a.misnamed.put rule.name (strangers pairs) }

theorem ends_addGiven (a : Assistant) (rule : Rule) (given : Given) :
    Ends a rule given (a.addGiven rule given).1 (a.addGiven rule given).2 := by
  by_cases htaken : rule.name ∈ a.ruleNames
  · rw [addGiven_of_mem htaken]
    exact .taken htaken
  · rw [addGiven, if_neg (mt List.contains_iff_mem.mp htaken)]
    split
    · exact .plain htaken rfl
    · exact .configured htaken rfl
    · exact .misfit htaken rfl

namespace Ends

variable {f : Fault}

theorem error_iff {outcome : Except Fault Unit} (h : Ends a rule given outcome b) :
    outcome = .error f ↔
      rule.name ∈ a.ruleNames ∧ f = .duplicateRule rule.name ∨
        rule.name ∉ a.ruleNames ∧ given = .value (.error f) := by
  cases h with
  | taken h => simp [h, eq_comm]
  | misfit hnew hf => simp [hnew, hf]
  | plain hnew hnothing => simp [hnothing, hnew]
  | configured hnew hpairs => simp [hnew, hpairs]

theorem of_error (h : Ends a rule given (.error f) b) :
    b.config = a.config ∧ b.misnamed = a.misnamed := by
  cases h with
  | taken h => exact ⟨rfl, rfl⟩
  | misfit hnew hf => exact ⟨rfl, rfl⟩

/-- A failure leaves the rules as they were when the name was taken. Else the rule has come in. -/
theorem rules_of_error (h : Ends a rule given (.error f) b) :
    b.rules = if rule.name ∈ a.ruleNames then a.rules else a.rules ++ [rule] := by
  cases h with
  | taken h => rw [if_pos h]
  | misfit hnew hf => rw [if_neg hnew]

theorem eq_of_error_iff (h : Ends a rule given (.error f) b) :
    b = a ↔ rule.name ∈ a.ruleNames := by
  cases h with
  | taken h => exact iff_of_true rfl h
  | misfit hnew hf =>
    refine iff_of_false (fun heq => ?_) hnew
    have hlength := congrArg (·.rules.length) heq
    simp at hlength

theorem of_ok (h : Ends a rule given (.ok ()) b) :
    b.rules = a.rules ++ [rule] ∧ b.config.erase rule.name = a.config.erase rule.name ∧
      b.misnamed.erase rule.name = a.misnamed.erase rule.name := by
  cases h with
  | plain hnew hnothing => exact ⟨rfl, rfl, rfl⟩
  | configured hnew hpairs => exact ⟨rfl, Keyed.erase_put _ _ _, Keyed.erase_put _ _ _⟩

end Ends

/-! ## The law -/

/-- Adding a rule fails for a name that is taken, and else when no mapping can be made of what is
given. Configurations are then as they were, but in the second case the rule stays. -/
theorem addGiven_fails_iff (a : Assistant) (rule : Rule) (given : Given) :
    (∀ f, (a.addGiven rule given).1 = .error f ↔
      rule.name ∈ a.ruleNames ∧ f = .duplicateRule rule.name ∨
        rule.name ∉ a.ruleNames ∧ given = .value (.error f)) ∧
    (∀ f, (a.addGiven rule given).1 = .error f →
      (a.addGiven rule given).2.config = a.config ∧
      (a.addGiven rule given).2.misnamed = a.misnamed ∧
      ((a.addGiven rule given).2 = a ↔ rule.name ∈ a.ruleNames) ∧
      (a.addGiven rule given).2.rules =
        if rule.name ∈ a.ruleNames then a.rules else a.rules ++ [rule]) ∧
    ((a.addGiven rule given).1 = .ok () →
      (a.addGiven rule given).2.rules = a.rules ++ [rule] ∧
      (a.addGiven rule given).2.config.erase rule.name = a.config.erase rule.name ∧
      (a.addGiven rule given).2.misnamed.erase rule.name = a.misnamed.erase rule.name) := by
  have hends := ends_addGiven a rule given
  refine ⟨fun f => hends.error_iff, fun f hf => ?_, fun hok => ?_⟩
  · rw [hf] at hends
    obtain ⟨hconfig, hmisnamed⟩ := hends.of_error
    exact ⟨hconfig, hmisnamed, hends.eq_of_error_iff, hends.rules_of_error⟩
  · rw [hok] at hends
    exact hends.of_ok

def bareAssistant : Assistant where
  name := "bare"
  rules := []
  config := []

def closedMapping : Given := .value (.error (.stated "ValueError" "invalid operation on closed shelf"))

theorem addGiven_fails_iff_ellipsis :
    ∃ a, a = (bareAssistant.addGiven Ellipsis.rule (.ofJson (.obj [("active", .bool true)]))).2 ∧
      a.rules = [Ellipsis.rule] ∧ a.config.erase Ellipsis.name = [] ∧
      (a.addGiven Ellipsis.rule closedMapping).2 = a ∧
      (bareAssistant.addGiven Ellipsis.rule closedMapping).2.config = [] := by
  obtain ⟨-, -, hadded⟩ :=
    addGiven_fails_iff bareAssistant Ellipsis.rule (.ofJson (.obj [("active", .bool true)]))
  obtain ⟨hrules, hconfig, -⟩ := hadded rfl
  obtain ⟨-, hfailed, -⟩ := addGiven_fails_iff
    (bareAssistant.addGiven Ellipsis.rule (.ofJson (.obj [("active", .bool true)]))).2
    Ellipsis.rule closedMapping
  obtain ⟨-, -, hunchanged, -⟩ := hfailed (.duplicateRule Ellipsis.name) rfl
  obtain ⟨-, hclosed, -⟩ := addGiven_fails_iff bareAssistant Ellipsis.rule closedMapping
  exact ⟨_, rfl, hrules, hconfig, hunchanged.mpr (by decide), (hclosed _ rfl).1⟩

/-- Given a mapping that is closed, or a number, the rule stays though adding it fails. -/
theorem addGiven_keeps_rule :
    (bareAssistant.addGiven Ellipsis.rule closedMapping).1 =
        .error (.stated "ValueError" "invalid operation on closed shelf") ∧
      (bareAssistant.addGiven Ellipsis.rule closedMapping).2.rules = [Ellipsis.rule] ∧
      (bareAssistant.add Ellipsis.rule (.whole 5)).1 = .error (.misuse (.noSequence "int")) ∧
      (bareAssistant.add Ellipsis.rule (.whole 5)).2.rules = [Ellipsis.rule] ∧
      bareAssistant.rules = [] :=
  ⟨rfl, rfl, rfl, rfl, rfl⟩

end DesignLint.Assistant
