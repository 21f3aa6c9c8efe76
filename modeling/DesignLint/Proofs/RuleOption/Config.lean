import DesignLint.Proofs.Field
import DesignLint.Proofs.RuleOption.Values

/-! # Flat forms that are read -/

namespace DesignLint

theorem Severity.lookup_names_iff {t : String} {s : Severity} :
    names.lookup t = some s ↔ t = s.name := by
  constructor
  · intro h
    obtain ⟨before, after, hnames, -⟩ := List.lookup_eq_some_iff.mp h
    have hmem : (t, s) ∈ names := by rw [hnames]; simp
    have hall : ∀ e ∈ names, e.1 = e.2.name := by decide
    exact hall _ hmem
  · rintro rfl
    cases s <;> rfl

namespace Field

variable {α : Type} {v : Json}

theorem strictFlag_eq_ok_iff {b : Bool} : strictFlag v = .ok b ↔ v = .bool b := by
  cases v <;> simp [strictFlag, Checked.complain]

theorem severity_eq_ok_iff {s : Severity} :
    choice Severity.names v = .ok s ↔ v = .str s.name := by
  cases v with
  | str t =>
    rw [Json.str.injEq, ← Severity.lookup_names_iff, choice]
    cases Severity.names.lookup t <;> simp [Checked.complain]
  | _ => simp [choice, Checked.complain]

theorem optional_eq_ok_iff {read : Json → Checked α} {spell : α → Json}
    (hread : ∀ {v a}, read v = .ok a ↔ v = spell a) (hspell : ∀ a, spell a ≠ .null) {o : Option α} :
    optional read v = .ok o ↔ v = (o.map spell).getD .null := by
  by_cases hv : v = .null
  · subst hv
    cases o with
    | none => simp [optional]
    | some a => simpa [optional] using (hspell a).symm
  · have hoptional : optional read v = (read v).map some := by
      cases v <;> first | rfl | contradiction
    rw [hoptional, Outcome.map_eq_ok_iff]
    cases o with
    | none => simpa using hv
    | some a => simp [hread]

end Field

namespace RuleConfig

/-! ## Reserved values -/

def flagIn (flat : Keyed Json) : Json := (flat.get? "active").getD (.bool true)

def severityIn (flat : Keyed Json) : Json := (flat.get? "severity").getD .null

def titleIn (flat : Keyed Json) : Json :=
  ((flat.first? ["rule_title", "ruleTitle"]).map (·.2)).getD .null

/-- A configuration says what a flat form says. -/
structure Says (c : RuleConfig) (flat : Keyed Json) : Prop where
  active : flagIn flat = .bool c.active
  severity : severityIn flat = (c.severity.map fun s => .str s.name).getD .null
  title : titleIn flat = (c.title.map .str).getD .null
  options : c.options = optionsOf flat

/-- The reserved values of a flat form fit: the flag is a truth value, the severity null or the name of
one, and the title null or a text. -/
structure Fits (flat : Keyed Json) : Prop where
  active : ∃ b, flagIn flat = .bool b
  severity : severityIn flat = .null ∨ ∃ s : Severity, severityIn flat = .str s.name
  title : titleIn flat = .null ∨ ∃ t, titleIn flat = .str t

theorem fits_iff {flat : Keyed Json} : Fits flat ↔ ∃ c : RuleConfig, c.Says flat := by
  constructor
  · rintro ⟨⟨b, hb⟩, hseverity, htitle⟩
    obtain ⟨severity, hs⟩ : ∃ o : Option Severity,
        severityIn flat = (o.map fun s => .str s.name).getD .null := by
      rcases hseverity with h | ⟨s, h⟩
      · exact ⟨none, h⟩
      · exact ⟨some s, h⟩
    obtain ⟨title, ht⟩ : ∃ o : Option String, titleIn flat = (o.map .str).getD .null := by
      rcases htitle with h | ⟨t, h⟩
      · exact ⟨none, h⟩
      · exact ⟨some t, h⟩
    exact ⟨⟨b, severity, title, optionsOf flat⟩, hb, hs, ht, rfl⟩
  · rintro ⟨c, hactive, hseverity, htitle, -⟩
    refine ⟨⟨c.active, hactive⟩, ?_, ?_⟩
    · cases hs : c.severity with
      | none => exact .inl (by rw [hseverity, hs]; rfl)
      | some s => exact .inr ⟨s, by rw [hseverity, hs]; rfl⟩
    · cases ht : c.title with
      | none => exact .inl (by rw [htitle, ht]; rfl)
      | some t => exact .inr ⟨t, by rw [htitle, ht]; rfl⟩

/-! ## Reading -/

variable {flat : Keyed Json} {c : RuleConfig} {rule : String} {keys : List Json}

theorem ofFields_fieldsOf (flat : Keyed Json) : ofFields (fieldsOf flat) =
    (Checked.both ((Field.strictFlag (flagIn flat)).within (.key "active"))
      (Checked.both
        ((Field.optional (Field.choice Severity.names) (severityIn flat)).within (.key "severity"))
        (Checked.both ((Field.optional Field.text (titleIn flat)).within (.key "rule_title"))
          (.ok (optionsOf flat))))).map
      fun (active, severity, title, options) => ⟨active, severity, title, options⟩ := rfl

theorem ofFlat_eq_ok_iff : ofFlat (.obj flat) = .ok c ↔ c.Says flat := by
  have hseverity : ∀ {v : Json} {o : Option Severity},
      Field.optional (Field.choice Severity.names) v = .ok o ↔
        v = (o.map fun s => .str s.name).getD .null :=
    Field.optional_eq_ok_iff Field.severity_eq_ok_iff (by simp)
  have htitle : ∀ {v : Json} {o : Option String},
      Field.optional Field.text v = .ok o ↔ v = (o.map .str).getD .null :=
    Field.optional_eq_ok_iff Field.text_eq_ok_iff (by simp)
  rw [ofFlat, ofRecord, Outcome.mapError_eq_ok_iff, ofFields_fieldsOf, Outcome.map_eq_ok_iff]
  simp only [Outcome.both_eq_ok_iff, Checked.within, Outcome.mapError_eq_ok_iff,
    Field.strictFlag_eq_ok_iff, hseverity, htitle, Except.ok.injEq]
  constructor
  · rintro ⟨⟨active, severity, title, options⟩, ⟨hactive, hseverity, htitle, hoptions⟩, rfl⟩
    exact ⟨hactive, hseverity, htitle, hoptions.symm⟩
  · intro h
    exact ⟨(c.active, c.severity, c.title, c.options),
      ⟨h.active, h.severity, h.title, h.options.symm⟩, rfl⟩

theorem ofFlatFor_eq_ok_iff :
    ofFlatFor rule keys (.obj flat) = .ok c ↔ keys = [] ∧ c.Says flat := by
  rw [← ofFlat_eq_ok_iff, ofFlatFor]
  cases hflat : ofFlat (.obj flat) with
  | ok c' => cases keys <;> simp
  | error f => cases f <;> simp

theorem ofFlatFor_eq_error {f : Fault} (h : ofFlatFor rule keys (.obj flat) = .error f) :
    ∃ problems, f = .option (.invalid rule problems) := by
  rw [ofFlatFor, ofFlat, ofRecord] at h
  cases hfields : ofFields (fieldsOf flat) with
  | ok c' =>
    rw [hfields] at h
    cases keys with
    | nil => cases h
    | cons k rest =>
      cases h
      exact ⟨_, rfl⟩
  | error problems =>
    rw [hfields] at h
    cases h
    exact ⟨_, rfl⟩

end RuleConfig

/-! ## Configurations as they are given -/

namespace ConfigInput

def flat? : ConfigInput → Option (List Json × Keyed Json)
  | .flat (.obj fields) => some ([], fields)
  | .flat _ => none
  | .misnamed keys fields => some (keys, fields)
  | .ready _ => none

variable {given : ConfigInput} {rule : String} {keys : List Json} {flat : Keyed Json}

theorem coerce_of_flat? (h : given.flat? = some (keys, flat)) :
    RuleConfig.coerce rule given = RuleConfig.ofFlatFor rule keys (.obj flat) := by
  cases given with
  | flat v =>
    cases v with
    | obj fields =>
      cases h
      rfl
    | _ => cases h
  | misnamed names fields =>
    cases h
    rfl
  | ready c => cases h

theorem isActive_of_flat? (h : given.flat? = some (keys, flat)) :
    given.isActive = .ok (RuleConfig.isActiveFlat flat) := by
  cases given with
  | flat v =>
    cases v with
    | obj fields =>
      cases h
      rfl
    | _ => cases h
  | misnamed names fields =>
    cases h
    rfl
  | ready c => cases h

/-- A flat form is read exactly when its keys are texts and its reserved values fit; otherwise it is
refused as options that do not fit. -/
theorem coerce_flat (rule : String) (h : given.flat? = some (keys, flat)) :
    (keys = [] ∧ RuleConfig.Fits flat →
      ∃ c : RuleConfig, RuleConfig.coerce rule given = .ok c ∧ c.Says flat) ∧
    (¬ (keys = [] ∧ RuleConfig.Fits flat) → ∃ problems,
      RuleConfig.coerce rule given = .error (.option (.invalid rule problems))) := by
  rw [coerce_of_flat? h, RuleConfig.fits_iff]
  constructor
  · rintro ⟨hkeys, c, hc⟩
    exact ⟨c, RuleConfig.ofFlatFor_eq_ok_iff.mpr ⟨hkeys, hc⟩, hc⟩
  · intro hnot
    cases hread : RuleConfig.ofFlatFor rule keys (.obj flat) with
    | ok c =>
      obtain ⟨hkeys, hc⟩ := RuleConfig.ofFlatFor_eq_ok_iff.mp hread
      exact absurd ⟨hkeys, c, hc⟩ hnot
    | error f =>
      obtain ⟨problems, rfl⟩ := RuleConfig.ofFlatFor_eq_error hread
      exact ⟨problems, rfl⟩

end ConfigInput

end DesignLint
