import DesignLint.Proofs.RuleOption.Constraints

/-! # The forms of option values -/

namespace DesignLint

inductive OptionType.Forms : OptionType → Json → Prop
  | string (s : String) : Forms .string (.str s)
  | number (x : Float) : Forms .number (.float x)
  | integer (n : Int) : Forms .integer (.whole n)
  | boolean (b : Bool) : Forms .boolean (.bool b)
  | stringArray (l : List String) : Forms .stringArray (.texts l)
  | numberArray (l : List Float) : Forms .numberArray (.arr (l.map .float))

theorem Declaration.forms_of_admits {d : Declaration} {w : Json} (h : d.Admits w) :
    d.type.Forms w := by
  unfold Admits at h
  cases htype : d.type with
  | string =>
    rw [htype] at h
    obtain ⟨s, rfl, -⟩ := h
    exact .string s
  | number =>
    rw [htype] at h
    obtain ⟨x, rfl, -⟩ := h
    exact .number x
  | integer =>
    rw [htype] at h
    obtain ⟨n, rfl, -⟩ := h
    exact .integer n
  | boolean =>
    rw [htype] at h
    obtain ⟨b, rfl⟩ := h
    exact .boolean b
  | stringArray =>
    rw [htype] at h
    obtain ⟨l, rfl, -⟩ := h
    exact .stringArray l
  | numberArray =>
    rw [htype] at h
    obtain ⟨l, rfl, -⟩ := h
    exact .numberArray l
  | unknown name =>
    rw [htype] at h
    exact h.elim

/-! ## Checked values -/

/-- The value of each declared option, where there is one, has the form of the option's type. -/
def Declaration.Fits (declared : List Declaration) (values : Keyed Json) : Prop :=
  ∀ name d w, named? declared name = some d → values.get? name = some w → d.type.Forms w

theorem OptionValues.fits_of_check {rule : String} {declared : List Declaration}
    {config : RuleConfig} {schema : Schema} {o : OptionValues}
    (hschema : Schema.compile rule declared = .ok schema)
    (h : check rule declared schema config = .ok o) (hoptions : (Keyed.keys config.options).Nodup) :
    Declaration.Fits declared o.values := by
  intro name d w hd hw
  obtain ⟨hmem, rfl⟩ := Declaration.mem_of_named? hd
  have hdeclared : d.name ∈ o.declared := by
    rw [(declared_of_check h).2]
    exact List.mem_map_of_mem hmem
  have hget : o.get d.name = .ok w := by rw [get_of_declared hdeclared, hw]
  obtain ⟨d', a, v, hd', ha, -, hv⟩ := ((answers_of_check hschema h hoptions).value _ _).mp hget
  cases hd.symm.trans hd'
  exact Declaration.forms_of_admits (Declaration.admits_of_eq_ok ha hv)

end DesignLint
