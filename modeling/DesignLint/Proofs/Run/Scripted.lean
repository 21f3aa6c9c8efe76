import DesignLint.Check.Raise
import DesignLint.Check.Script
import DesignLint.Proofs.Run.Faults
import DesignLint.Proofs.Run.Invoked
import Mathlib.Data.List.Nodup

/-! # Rules with scripted checks -/

namespace DesignLint

/-! ## Steps in order -/

namespace Step

variable {c : Context} {s t : Session} {f : Fault}

end Step

def Rule.scripted (rule : Rule) (steps : List Step) : Rule :=
  { rule with check := Step.script steps }

namespace Runner

variable {r : Runner} {loaded : Except Fault Document} {d : Document} {index : Index Layer}
  {configs : Keyed ConfigInput} {A B : List Rule} {rule : Rule} {o : RuleRun}

/-! ## One rule between others -/

/-- A rule is given up before its check, since its configuration has bad reserved values or its
options do not fit. -/
def Refuses (configs : Keyed ConfigInput) (rule : Rule) (f : Fault) : Prop :=
  ∃ input, configOf configs rule.name = some input ∧
    ((∃ g, f = .option g ∧ RuleConfig.coerce rule.name input = .error f) ∨
      ∃ config schema, RuleConfig.coerce rule.name input = .ok config ∧ config.active = true ∧
        Schema.compile rule.name rule.options = .ok schema ∧
        OptionValues.check rule.name rule.options schema config = .error f)

namespace Refuses

variable {f : Fault}

theorem exists_solo (r : Runner) (index : Index Layer) (h : Refuses configs rule f) :
    ∃ o, o.own = [] ∧ o.error? = some (.ofFault rule.name f) ∧ ∀ check,
      r.solo index configs { rule with check } = .ok o := by
  obtain ⟨input, hinput,
    ⟨g, rfl, hconfig⟩ | ⟨config, schema, hconfig, hactive, hschema, hvalues⟩⟩ := h
  · refine ⟨.rejected (.ofFault rule.name (.option g)), rfl, rfl, fun check => ?_⟩
    simp only [solo, runRule, hinput, hconfig]
  · refine ⟨.unstarted (.ofFault rule.name f), rfl, rfl, fun check => ?_⟩
    simp only [solo, runRule, start, hinput, hconfig, hactive, if_true, hschema, hvalues]

end Refuses

/-! ## What a script contributes -/

end Runner

end DesignLint
