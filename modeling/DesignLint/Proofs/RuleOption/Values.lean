import DesignLint.Proofs.Keyed
import DesignLint.Proofs.Outcome
import DesignLint.RuleOption.Values

/-! # What is read for an option -/

namespace DesignLint

/-! ## Declared options -/

namespace Declaration

def named? (declared : List Declaration) (name : String) : Option Declaration :=
  declared.reverse.find? fun d => d.name = name

def fallback? (declared : List Declaration) (name : String) : Option Json :=
  declared.reverse.findSome? fun d => if d.name = name then d.fallback else none

def declares (declared : List Declaration) (name : String) : Bool :=
  declared.any fun d => d.name == name

theorem exists_named? {declared : List Declaration} {name : String}
    (h : name ∈ declared.map (·.name)) : ∃ d, named? declared name = some d := by
  obtain ⟨d, hd, hname⟩ := List.mem_map.mp h
  rw [← Option.isSome_iff_exists, named?, List.find?_isSome]
  exact ⟨d, List.mem_reverse.mpr hd, by simpa using hname⟩

theorem mem_of_named? {declared : List Declaration} {name : String} {d : Declaration}
    (h : named? declared name = some d) : d ∈ declared ∧ d.name = name :=
  ⟨List.mem_reverse.mp (List.mem_of_find?_eq_some h), by simpa using List.find?_some h⟩

theorem get?_filterMap_fallback (l : List Declaration) (name : String) :
    Keyed.get? (l.filterMap fun d => d.fallback.map fun v => (d.name, v)) name =
      l.findSome? fun d => if d.name = name then d.fallback else none := by
  induction l with
  | nil => rfl
  | cons d l ih =>
    rw [List.filterMap_cons, List.findSome?_cons]
    cases hd : d.fallback with
    | none => simpa [hd] using ih
    | some v =>
      by_cases hname : d.name = name
      · simp [Keyed.get?_cons, hname]
      · simpa [Keyed.get?_cons, hname] using ih

theorem get?_defaults (declared : List Declaration) (name : String) :
    (defaults declared).get? name = fallback? declared name := by
  rw [defaults, Keyed.get?_ofPairs, ← List.filterMap_reverse, get?_filterMap_fallback, fallback?]

theorem only_defaults (declared : List Declaration) :
    (defaults declared).only (declares declared) = defaults declared := by
  rw [defaults, Keyed.ofPairs, Keyed.only_merge]
  refine congrArg (Keyed.merge []) (Keyed.only_eq_self fun e he => ?_)
  obtain ⟨d, hd, hfallback⟩ := List.mem_filterMap.mp he
  obtain ⟨v, -, rfl⟩ := Option.map_eq_some_iff.mp hfallback
  exact List.any_eq_true.mpr ⟨d, hd, beq_self_eq_true d.name⟩

end Declaration

namespace OptionValues

theorem supplied_eq_only (declared : List Declaration) (config : RuleConfig) :
    supplied declared config =
      ((Declaration.defaults declared).merge config.options).only (Declaration.declares declared) := by
  rw [Keyed.only_merge, Declaration.only_defaults]
  rfl

theorem get?_supplied {declared : List Declaration} {config : RuleConfig} {name : String}
    (hdeclared : name ∈ declared.map (·.name)) (hoptions : (Keyed.keys config.options).Nodup) :
    (supplied declared config).get? name =
      (config.options.get? name).or (Declaration.fallback? declared name) := by
  have hany : (declared.any fun d => d.name == name) = true := by
    simpa [List.any_eq_true] using hdeclared
  rw [supplied, Keyed.get?_merge_of_nodup, Keyed.get?_only, if_pos hany, Declaration.get?_defaults]
  rw [Keyed.keys_only]
  exact hoptions.filter _

end OptionValues

/-! ## Checked values -/

namespace Schema

variable {supplied : Keyed Json} {name : String} {a : Acceptor} {r : Option (String × Json)}
  {v : Json}

theorem checkField_eq_ok (h : checkField supplied name a = .ok r) :
    (∃ v w, supplied.get? name = some v ∧ a v = .ok w ∧ r = some (name, w)) ∨
      supplied.get? name = none ∧ r = none := by
  unfold checkField at h
  split at h
  · rename_i v hv
    rw [Checked.within, Outcome.mapError_eq_ok_iff] at h
    obtain ⟨w, hw, rfl⟩ := Outcome.map_eq_ok_iff.mp h
    exact .inl ⟨v, w, hv, hw, rfl⟩
  · rename_i hnone
    cases h
    exact .inr ⟨hnone, rfl⟩

theorem all_eq_ok {α : Type} {l : List (Checked α)} {m : List α} (h : Checked.all l = .ok m) :
    List.Forall₂ (fun x b => x = .ok b) l m := by
  induction l generalizing m with
  | nil =>
    cases h
    exact .nil
  | cons x rest ih =>
    obtain ⟨⟨b, m⟩, hboth, rfl⟩ := Outcome.map_eq_ok_iff.mp h
    obtain ⟨hb, hm⟩ := Outcome.both_eq_ok_iff.mp hboth
    exact .cons hb (ih hm)

theorem fields_of_compile {rule : String} {declared : List Declaration} {schema : Schema}
    (h : compile rule declared = .ok schema) :
    List.Forall₂ (fun d f => ∃ a, Acceptor.ofDeclaration d = .ok a ∧ f = (d.name, a)) declared
      schema.fields := by
  unfold compile at h
  split at h
  · cases h
  · split at h
    · cases h
    · obtain ⟨fields, hfields, rfl⟩ := Outcome.map_eq_ok_iff.mp h
      refine (Outcome.mapM_eq_ok_iff.mp hfields).imp ?_
      intro d f hf
      obtain ⟨a, ha, rfl⟩ := Outcome.map_eq_ok_iff.mp hf
      exact ⟨a, ha, rfl⟩

theorem exists_of_compile {rule : String} {declared : List Declaration} {schema : Schema}
    (h : compile rule declared = .ok schema) {d : Declaration} (hd : d ∈ declared) :
    ∃ a, Acceptor.ofDeclaration d = .ok a := by
  obtain ⟨i, hi⟩ := List.mem_iff_getElem?.mp hd
  obtain ⟨f, -, a, ha, -⟩ := Outcome.exists_getElem?_of_forall₂ (fields_of_compile h).flip hi
  exact ⟨a, ha⟩

def Yields (supplied : Keyed Json) (d : Declaration) (r : Option (String × Json)) : Prop :=
  ∃ a, Acceptor.ofDeclaration d = .ok a ∧ checkField supplied d.name a = .ok r

theorem yields_of_check {rule : String} {declared : List Declaration} {schema : Schema}
    {values : Keyed Json} (hschema : compile rule declared = .ok schema)
    (h : schema.check supplied = .ok values) :
    ∃ l, List.Forall₂ (Yields supplied) declared l ∧
      values = Keyed.ofPairs (l.filterMap fun e => e) := by
  obtain ⟨l, hl, rfl⟩ := Outcome.map_eq_ok_iff.mp h
  refine ⟨l, ?_, rfl⟩
  have hchecked := List.forall₂_map_left_iff.mp (all_eq_ok hl)
  refine (Outcome.forall₂_comp (fields_of_compile hschema) hchecked).imp ?_
  rintro d r ⟨f, ⟨a, ha, rfl⟩, hr⟩
  exact ⟨a, ha, hr⟩

theorem get?_of_missing {ds : List Declaration} {rs : List (Option (String × Json))}
    (h : List.Forall₂ (Yields supplied) ds rs) (hnone : supplied.get? name = none) :
    Keyed.get? (rs.filterMap fun e => e) name = none := by
  induction h with
  | nil => rfl
  | @cons d r _ _ hyield _ ih =>
    obtain ⟨a, -, hr⟩ := hyield
    rcases checkField_eq_ok hr with ⟨v, w, hv, -, rfl⟩ | ⟨-, rfl⟩
    · have hname : d.name ≠ name := by
        rintro rfl
        rw [hv] at hnone
        cases hnone
      simpa only [List.filterMap_cons, Keyed.get?_cons, if_neg hname] using ih
    · exact ih

/-- What is yielded first for a name is what the first option of this name accepts. -/
theorem get?_of_supplied {ds : List Declaration} {rs : List (Option (String × Json))}
    {d : Declaration} (h : List.Forall₂ (Yields supplied) ds rs)
    (hd : ds.find? (fun d => d.name = name) = some d) (hv : supplied.get? name = some v) :
    ∃ a w, Acceptor.ofDeclaration d = .ok a ∧ a v = .ok w ∧
      Keyed.get? (rs.filterMap fun e => e) name = some w := by
  induction h with
  | nil => cases hd
  | @cons d' r _ _ hyield _ ih =>
    obtain ⟨a, ha, hr⟩ := hyield
    by_cases hname : d'.name = name
    · rw [List.find?_cons_of_pos (by simpa using hname), Option.some.injEq] at hd
      subst hd hname
      rcases checkField_eq_ok hr with ⟨v', w, hv', hw, rfl⟩ | ⟨hnone, -⟩
      · cases hv.symm.trans hv'
        refine ⟨a, w, ha, hw, ?_⟩
        simp only [List.filterMap_cons, Keyed.get?_cons, if_true]
      · rw [hv] at hnone
        cases hnone
    · rw [List.find?_cons_of_neg (by simpa using hname)] at hd
      obtain ⟨b, w, hb, hw, hget⟩ := ih hd
      refine ⟨b, w, hb, hw, ?_⟩
      rcases checkField_eq_ok hr with ⟨v', w', -, -, rfl⟩ | ⟨-, rfl⟩
      · simpa only [List.filterMap_cons, Keyed.get?_cons, if_neg hname] using hget
      · exact hget

end Schema

/-! ## Options of flat forms -/

namespace RuleConfig

theorem get?_optionsOf {name : String} (hname : name ∉ reservedKeys) (flat : Keyed Json) :
    (optionsOf flat).get? name = flat.get? name := by
  rw [optionsOf, Keyed.get?_only, if_pos]
  simpa using hname

end RuleConfig

/-! ## Values that are read -/

namespace OptionValues

/-- What is read for a declared option when a value is given for it, or none. -/
def Reads (rule : String) (declared : List Declaration) (given : Option Json) (name : String)
    (read : Except Fault Json) : Prop :=
  ∃ d a, Declaration.named? declared name = some d ∧ Acceptor.ofDeclaration d = .ok a ∧
    match given.or (Declaration.fallback? declared name) with
    | some v => ∃ w, a v = .ok w ∧ read = .ok w
    | none => read = .error (.option (.missing rule name))

theorem get_of_declared {o : OptionValues} {name : String} (h : name ∈ o.declared) :
    o.get name = match o.values.get? name with
      | some v => .ok v
      | none => .error (.option (.missing o.rule name)) := by
  rw [OptionValues.get, List.contains_iff_mem.mpr h]
  rfl

theorem reads_of_check {rule : String} {declared : List Declaration} {config : RuleConfig}
    {schema : Schema} {o : OptionValues} {name : String}
    (hschema : Schema.compile rule declared = .ok schema)
    (h : check rule declared schema config = .ok o) (hdeclared : name ∈ declared.map (·.name))
    (hoptions : (Keyed.keys config.options).Nodup) :
    Reads rule declared (config.options.get? name) name (o.get name) := by
  obtain ⟨d, hd⟩ := Declaration.exists_named? hdeclared
  unfold check at h
  split at h
  · rename_i values hvalues
    cases h
    obtain ⟨l, hl, rfl⟩ := Schema.yields_of_check hschema hvalues
    have hreverse := List.rel_reverse hl
    have hget : (Keyed.ofPairs (l.filterMap fun e => e)).get? name =
        Keyed.get? (l.reverse.filterMap fun e => e) name := by
      rw [Keyed.get?_ofPairs, List.filterMap_reverse]
    have hsupplied := get?_supplied hdeclared hoptions
    cases hv : (config.options.get? name).or (Declaration.fallback? declared name) with
    | some v =>
      rw [hv] at hsupplied
      obtain ⟨a, w, ha, hw, hyield⟩ := Schema.get?_of_supplied hreverse hd hsupplied
      refine ⟨d, a, hd, ha, ?_⟩
      rw [hv]
      exact ⟨w, hw, by rw [get_of_declared hdeclared, hget, hyield]⟩
    | none =>
      rw [hv] at hsupplied
      obtain ⟨a, ha⟩ := Schema.exists_of_compile hschema (Declaration.mem_of_named? hd).1
      refine ⟨d, a, hd, ha, ?_⟩
      rw [hv, get_of_declared hdeclared, hget, Schema.get?_of_missing hreverse hsupplied]
  · cases h

end OptionValues

end DesignLint
