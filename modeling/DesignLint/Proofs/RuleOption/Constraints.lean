import DesignLint.Proofs.Format.Search
import DesignLint.Proofs.RuleOption.Acceptors
import DesignLint.Proofs.RuleOption.Pointwise

/-! # Values that meet their declaration -/

namespace DesignLint

namespace Declaration

/-! ## Admitted values -/

/-- A constraint, as `read` takes it, is met; there is nothing to meet when none is stated. -/
def Met {α : Type} (read : Json → Checked α) (meets : α → Prop) (constraint : Json) : Prop :=
  constraint = .null ∨ ∃ a, read constraint = .ok a ∧ meets a

structure AdmitsLength (d : Declaration) (n : Nat) : Prop where
  least : Met Acceptor.length (· ≤ n) d.minLength
  most : Met Acceptor.length (n ≤ ·) d.maxLength

def AdmitsText (d : Declaration) (s : String) : Prop :=
  Met Acceptor.pattern (fun p => p.2.Matches s) d.pattern

/-- The float is within the bounds, which are floats too. One that is no number is within none. -/
structure AdmitsFloat (d : Declaration) (x : Float) : Prop where
  least : Met Field.float (· ≤ x) d.minimum
  most : Met Field.float (x ≤ ·) d.maximum

structure AdmitsWhole (d : Declaration) (n : Int) : Prop where
  least : Met Field.whole (· ≤ n) d.minimum
  most : Met Field.whole (n ≤ ·) d.maximum

/-- The value is of the declared type and meets all constraints that the type has. -/
def Admits (d : Declaration) (w : Json) : Prop :=
  match d.type with
  | .string => ∃ s, w = .str s ∧ d.AdmitsLength s.length ∧ d.AdmitsText s
  | .number => ∃ x, w = .float x ∧ d.AdmitsFloat x
  | .integer => ∃ n, w = .whole n ∧ d.AdmitsWhole n
  | .boolean => ∃ b, w = .bool b
  | .stringArray => ∃ l, w = .texts l ∧ d.AdmitsLength l.length ∧ ∀ s ∈ l, d.AdmitsText s
  | .numberArray => ∃ l : List Float,
      w = .arr (l.map .float) ∧ d.AdmitsLength l.length ∧ ∀ x ∈ l, d.AdmitsFloat x
  | .unknown _ => False

/-! ## Constraints that were read -/

variable {d : Declaration}

theorem met_iff {α : Type} {read : Json → Checked α} {constraint : Json} {stated : Option α}
    (h : Acceptor.stated read constraint = .ok stated) (meets : α → Prop) :
    Met read meets constraint ↔ ∀ a ∈ stated, meets a := by
  have hread : Field.optional read constraint = .ok stated := Outcome.mapError_eq_ok_iff.mp h
  unfold Field.optional at hread
  split at hread
  · cases hread
    simp [Met]
  · rename_i hnull
    obtain ⟨a, ha, rfl⟩ := Outcome.map_eq_ok_iff.mp hread
    have hstated : constraint ≠ .null := hnull
    simp [Met, ha, hstated]

theorem admitsLength_iff {least most : Option Nat} {n : Nat}
    (hleast : Acceptor.stated Acceptor.length d.minLength = .ok least)
    (hmost : Acceptor.stated Acceptor.length d.maxLength = .ok most) :
    d.AdmitsLength n ↔ (∀ k ∈ least, k ≤ n) ∧ ∀ k ∈ most, n ≤ k := by
  rw [← met_iff hleast, ← met_iff hmost]
  exact ⟨fun h => ⟨h.least, h.most⟩, fun h => ⟨h.1, h.2⟩⟩

theorem admitsText_iff {pattern : Option (String × Format.Expression)} {s : String}
    (hpattern : Acceptor.stated Acceptor.pattern d.pattern = .ok pattern) :
    d.AdmitsText s ↔ ∀ p ∈ pattern, p.2.isFoundIn s = true := by
  simp only [AdmitsText, met_iff hpattern, Format.Expression.isFoundIn_iff]

theorem admitsFloat_iff {least most : Option Float} {x : Float}
    (hleast : Acceptor.stated Field.float d.minimum = .ok least)
    (hmost : Acceptor.stated Field.float d.maximum = .ok most) :
    d.AdmitsFloat x ↔ (∀ b ∈ least, b ≤ x) ∧ ∀ b ∈ most, x ≤ b := by
  rw [← met_iff hleast, ← met_iff hmost]
  exact ⟨fun h => ⟨h.least, h.most⟩, fun h => ⟨h.1, h.2⟩⟩

theorem admitsWhole_iff {least most : Option Int} {n : Int}
    (hleast : Acceptor.stated Field.whole d.minimum = .ok least)
    (hmost : Acceptor.stated Field.whole d.maximum = .ok most) :
    d.AdmitsWhole n ↔ (∀ b ∈ least, b ≤ n) ∧ ∀ b ∈ most, n ≤ b := by
  rw [← met_iff hleast, ← met_iff hmost]
  exact ⟨fun h => ⟨h.least, h.most⟩, fun h => ⟨h.1, h.2⟩⟩

/-! ## Checks and admitted values -/

theorem exists_map_of_forall₂ {α : Type} {f : α → Json} {good : α → Prop} {item : Acceptor}
    (hitem : ∀ v w, item v = .ok w → ∃ a, w = f a ∧ good a) {l m : List Json}
    (h : List.Forall₂ (fun v w => item v = .ok w) l m) :
    ∃ made : List α, m = made.map f ∧ ∀ a ∈ made, good a := by
  induction h with
  | nil => exact ⟨[], rfl, by simp⟩
  | cons hw _ ih =>
    obtain ⟨a, rfl, ha⟩ := hitem _ _ hw
    obtain ⟨made, rfl, hmade⟩ := ih
    exact ⟨a :: made, rfl, List.forall_mem_cons.mpr ⟨ha, hmade⟩⟩

theorem admits_of_eq_ok {a : Acceptor} {v w : Json} (ha : Acceptor.ofDeclaration d = .ok a)
    (h : a v = .ok w) : d.Admits w := by
  unfold Admits
  cases Acceptor.isOf_of_ofDeclaration ha with
  | string htype hleast hmost hpattern =>
    rw [htype]
    obtain ⟨s, -, rfl, hlow, hhigh, hfound⟩ := Acceptor.text_eq_ok_iff.mp h
    exact ⟨s, rfl, (admitsLength_iff hleast hmost).mpr ⟨hlow, hhigh⟩,
      (admitsText_iff hpattern).mpr hfound⟩
  | number htype hleast hmost =>
    rw [htype]
    obtain ⟨x, -, rfl, hbounds⟩ := Acceptor.number_eq_ok_iff.mp h
    exact ⟨x, rfl, (admitsFloat_iff hleast hmost).mpr hbounds⟩
  | integer htype hleast hmost =>
    rw [htype]
    obtain ⟨n, -, rfl, hbounds⟩ := Acceptor.integer_eq_ok_iff.mp h
    exact ⟨n, rfl, (admitsWhole_iff hleast hmost).mpr hbounds⟩
  | boolean htype =>
    rw [htype]
    obtain ⟨b, -, rfl⟩ := Acceptor.boolean_eq_ok_iff.mp h
    exact ⟨b, rfl⟩
  | @stringArray _ _ pattern htype hpattern hleast hmost =>
    rw [htype]
    obtain ⟨_, m, -, rfl, hitems, hlength⟩ := Acceptor.array_eq_ok_iff.mp h
    have hitem : ∀ v w, Acceptor.text none none pattern v = .ok w →
        ∃ s, w = .str s ∧ d.AdmitsText s := by
      intro v w hw
      obtain ⟨s, -, rfl, -, -, hfound⟩ := Acceptor.text_eq_ok_iff.mp hw
      exact ⟨s, rfl, (admitsText_iff hpattern).mpr hfound⟩
    obtain ⟨l, rfl, hl⟩ := exists_map_of_forall₂ hitem hitems
    rw [List.length_map] at hlength
    exact ⟨l, rfl, (admitsLength_iff hleast hmost).mpr hlength, hl⟩
  | @numberArray low high _ _ htype hlow hhigh hleast hmost =>
    rw [htype]
    obtain ⟨_, m, -, rfl, hitems, hlength⟩ := Acceptor.array_eq_ok_iff.mp h
    have hitem : ∀ v w, Acceptor.number low high v = .ok w →
        ∃ x, w = .float x ∧ d.AdmitsFloat x := by
      intro v w hw
      obtain ⟨x, -, rfl, hbounds⟩ := Acceptor.number_eq_ok_iff.mp hw
      exact ⟨x, rfl, (admitsFloat_iff hlow hhigh).mpr hbounds⟩
    obtain ⟨l, rfl, hl⟩ := exists_map_of_forall₂ hitem hitems
    rw [List.length_map] at hlength
    exact ⟨l, rfl, (admitsLength_iff hleast hmost).mpr hlength, hl⟩

end Declaration

/-! ## Resolved options -/

namespace OptionValues

variable {rule : String} {declared : List Declaration} {config : RuleConfig} {o : OptionValues}

/-- What is read under a name, after options were resolved, is a value that the last option of this
name admits. -/
theorem admits_of_resolve (h : resolve rule declared config = .ok o)
    (hoptions : (Keyed.keys config.options).Nodup) :
    (∀ d ∈ declared, ∀ v, Declaration.given declared config d.name = some v →
      ∃ a w, Acceptor.ofDeclaration d = .ok a ∧ a v = .ok w ∧ d.Admits w) ∧
    ∀ name w, o.get name = .ok w →
      ∃ d, Declaration.named? declared name = some d ∧ d.Admits w := by
  obtain ⟨schema, hschema, hcheck⟩ := Outcome.bind_eq_ok_iff.mp h
  constructor
  · intro d hd v hv
    have haccepts : ¬ d.Rejects (Declaration.given declared config d.name) := by
      intro hrejects
      have herror := (check_eq_error_iff hschema hoptions).mpr ⟨⟨d, hd, hrejects⟩, rfl⟩
      cases hcheck.symm.trans herror
    obtain ⟨a, ha⟩ := Schema.exists_of_compile hschema hd
    cases hw : a v with
    | ok w => exact ⟨a, w, ha, hw, Declaration.admits_of_eq_ok ha hw⟩
    | error problems => exact absurd ⟨a, v, problems, ha, hv, hw⟩ haccepts
  · intro name w hw
    have hanswers := answers_of_check hschema hcheck hoptions
    obtain ⟨d, a, v, hd, ha, -, hv⟩ := (hanswers.value name w).mp hw
    exact ⟨d, hd, Declaration.admits_of_eq_ok ha hv⟩

def constrained : List Declaration := [
  { name := "label", type := .string, minLength := .whole 2, pattern := .str "a" },
  { name := "scale", type := .number, fallback := some (.whole 1), minimum := .float 0 },
  { name := "columns", type := .integer, maximum := .whole 12 },
  { name := "sizes", type := .numberArray, maxLength := .whole 2, maximum := .whole 10 }]

def constrainedConfig : RuleConfig where
  active := true
  severity := none
  title := none
  options := [("label", .str "ab"), ("columns", .whole 4), ("sizes", .arr [.whole 8, .float 9])]

theorem admits_of_resolve_constrained :
    ∃ o, resolve "a/b" constrained constrainedConfig = .ok o ∧
      (Keyed.keys constrainedConfig.options).Nodup ∧
      ∀ name ∈ constrained.map (·.name), ∃ d w, o.get name = .ok w ∧
        Declaration.named? constrained name = some d ∧ d.Admits w := by
  obtain ⟨o, ho⟩ : ∃ o, resolve "a/b" constrained constrainedConfig = .ok o :=
    Outcome.exists_of_isOk (by decide +kernel)
  have hoptions : (Keyed.keys constrainedConfig.options).Nodup := by decide
  have hvalues : ∀ name ∈ constrained.map (·.name),
      ((resolve "a/b" constrained constrainedConfig).bind (·.get name)).isOk = true := by
    decide +kernel
  refine ⟨o, ho, hoptions, ?_⟩
  intro name hname
  have hvalue := hvalues name hname
  rw [ho] at hvalue
  obtain ⟨w, hw⟩ : ∃ w, o.get name = .ok w := Outcome.exists_of_isOk hvalue
  obtain ⟨d, hd, hadmits⟩ := (admits_of_resolve ho hoptions).2 name w hw
  exact ⟨d, w, hw, hd, hadmits⟩

/-! ## Whole numbers as bounds of floats -/

def unevenBound : List Declaration :=
  [{ name := "scale", type := .number, minimum := .whole 0x20000000000001 }]

def evenConfig : RuleConfig where
  active := true
  severity := none
  title := none
  options := [("scale", .whole 0x20000000000000)]

/-- A whole number that is no float gives way to the nearest one when it is a bound of floats. -/
theorem below_bound_of_resolve :
    ∃ o x, resolve "a/b" unevenBound evenConfig = .ok o ∧ o.get "scale" = .ok (.float x) ∧
      Number.below x (.whole 0x20000000000001) = true := by
  have ho : resolve "a/b" unevenBound evenConfig = .ok _ := rfl
  exact ⟨_, Number.nearest 0x20000000000000, ho, rfl, rfl⟩

end OptionValues

end DesignLint
