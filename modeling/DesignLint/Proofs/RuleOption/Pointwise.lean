import DesignLint.Proofs.RuleOption.Acceptors
import DesignLint.Proofs.RuleOption.Values

/-! # Options one by one -/

namespace DesignLint

/-! ## Several values at once -/

namespace Checked

variable {α β : Type}

theorem problems_map (r : Checked α) (f : α → β) : problems (r.map f) = r.problems := by
  cases r <;> rfl

theorem problems_all (l : List (Checked α)) : (all l).problems = l.flatMap problems := by
  induction l with
  | nil => rfl
  | cons r rest ih => rw [all, problems_map, problems_both, ih, List.flatMap_cons]

theorem exists_all_eq_ok_iff {l : List (Checked α)} :
    (∃ m, all l = .ok m) ↔ ∀ r ∈ l, ∃ a, r = .ok a := by
  induction l with
  | nil => simp [all]
  | cons r rest ih =>
    rw [List.forall_mem_cons, ← ih]
    simp only [all, Outcome.map_eq_ok_iff, Outcome.both_eq_ok_iff, Prod.exists]
    constructor
    · rintro ⟨_, a, m, ⟨ha, hm⟩, _⟩
      exact ⟨⟨a, ha⟩, m, hm⟩
    · rintro ⟨⟨a, ha⟩, m, hm⟩
      exact ⟨_, a, m, ⟨ha, hm⟩, rfl⟩

end Checked

theorem Problem.exists_line_within (name : String) (p : Problem) :
    ∃ rest, (p.within (.key name)).line = name ++ rest := by
  have hdotted : ∃ rest, dotted (.key name :: p.path) = name ++ rest := by
    cases hpath : p.path with
    | nil => exact ⟨"", by simp [dotted, Segment.text]⟩
    | cons s path =>
      refine ⟨"." ++ dotted (s :: path), ?_⟩
      rw [← String.append_assoc]
      exact String.intercalate_cons_cons
  obtain ⟨rest, hrest⟩ := hdotted
  refine ⟨rest ++ ": " ++ p.message, ?_⟩
  rw [line, within, hrest, String.append_assoc, String.append_assoc, String.append_assoc]
  rfl

/-! ## Options and what is supplied for them -/

namespace Declaration

/-- What is supplied for the options of a name: the value that is configured, or else the last default
that is declared. -/
def given (declared : List Declaration) (config : RuleConfig) (name : String) : Option Json :=
  (config.options.get? name).or (fallback? declared name)

/-- The option does not accept what is supplied for it. -/
def Rejects (d : Declaration) (given : Option Json) : Prop :=
  ∃ a v problems, Acceptor.ofDeclaration d = .ok a ∧ given = some v ∧ a v = .error problems

def problems (d : Declaration) (given : Option Json) : List Problem :=
  match Acceptor.ofDeclaration d, given with
  | .ok a, some v => ((a v).within (.key d.name)).problems
  | _, _ => []

/-- The lines that tell of the problems of all options, in the order of declaration. -/
def problemLines (declared : List Declaration) (config : RuleConfig) : List String :=
  declared.flatMap fun d => (d.problems (given declared config d.name)).map Problem.line

variable {declared : List Declaration} {config others : RuleConfig} {d : Declaration}

theorem rejects_iff_problems_ne_nil (given : Option Json) :
    d.Rejects given ↔ d.problems given ≠ [] := by
  unfold Rejects problems
  cases ha : Acceptor.ofDeclaration d with
  | error f => simp
  | ok a =>
    cases given with
    | none => simp
    | some v =>
      have hcomplains := (Acceptor.isOf_of_ofDeclaration ha).complains v
      cases hv : a v with
      | ok w => simp [hv, Checked.within, Except.mapError, Checked.problems]
      | error p =>
        have hp : p ≠ [] := fun h => hcomplains (by rw [hv, h])
        simp [hv, Checked.within, Except.mapError, Checked.problems, hp]

theorem exists_of_mem_problems {given : Option Json} {p : Problem} (h : p ∈ d.problems given) :
    ∃ rest, p.line = d.name ++ rest := by
  unfold problems at h
  split at h
  · rename_i _ a v _
    cases hv : a v with
    | ok w =>
      rw [hv] at h
      cases h
    | error l =>
      rw [hv] at h
      obtain ⟨q, -, rfl⟩ := List.mem_map.mp h
      exact Problem.exists_line_within d.name q
  · cases h

end Declaration

/-! ## Checking all options -/

namespace Schema

variable {rule name : String} {declared : List Declaration} {schema : Schema}
  {supplied : Keyed Json} {d : Declaration} {a : Acceptor}

theorem problems_checkField (ha : Acceptor.ofDeclaration d = .ok a) :
    (checkField supplied d.name a).problems = d.problems (supplied.get? d.name) := by
  unfold checkField Declaration.problems
  rw [ha]
  cases supplied.get? d.name with
  | none => rfl
  | some v =>
    cases hv : a v <;> simp [hv, Checked.within, Except.map, Except.mapError, Checked.problems]

theorem problems_check (hschema : compile rule declared = .ok schema) :
    (schema.check supplied).problems =
      declared.flatMap fun d => d.problems (supplied.get? d.name) := by
  rw [check, Checked.problems_map, Checked.problems_all, List.flatMap_map]
  refine Outcome.flatMap_of_forall₂ (fields_of_compile hschema) ?_
  rintro d f ⟨a, ha, rfl⟩
  exact problems_checkField ha

theorem checkField_eq_ok_iff (ha : Acceptor.ofDeclaration d = .ok a) :
    (∃ r, checkField supplied d.name a = .ok r) ↔ ¬ d.Rejects (supplied.get? d.name) := by
  unfold checkField Declaration.Rejects
  cases supplied.get? d.name with
  | none => simp
  | some v => cases hv : a v <;> simp [ha, hv, Checked.within, Except.map, Except.mapError]

theorem exists_check_eq_ok_iff (hschema : compile rule declared = .ok schema) :
    (∃ values, schema.check supplied = .ok values) ↔
      ∀ d ∈ declared, ¬ d.Rejects (supplied.get? d.name) := by
  have hmap : (∃ values, schema.check supplied = .ok values) ↔
      ∃ m, Checked.all (schema.fields.map fun f => checkField supplied f.1 f.2) = .ok m := by
    unfold check
    cases Checked.all (schema.fields.map fun f => checkField supplied f.1 f.2) <;> simp [Except.map]
  rw [hmap, Checked.exists_all_eq_ok_iff, List.forall_mem_map]
  have hfields := fields_of_compile hschema
  clear hmap hschema
  generalize schema.fields = fields at hfields
  induction hfields with
  | nil => simp
  | cons hf _ ih =>
    obtain ⟨a, ha, rfl⟩ := hf
    rw [List.forall_mem_cons, List.forall_mem_cons]
    exact and_congr (checkField_eq_ok_iff ha) ih

theorem check_congr (hschema : compile rule declared = .ok schema) {others : Keyed Json}
    (h : ∀ d ∈ declared, others.get? d.name = supplied.get? d.name) :
    schema.check others = schema.check supplied := by
  have hsame : ∀ f ∈ schema.fields, checkField others f.1 f.2 = checkField supplied f.1 f.2 := by
    intro f hf
    obtain ⟨i, hi⟩ := List.mem_iff_getElem?.mp hf
    obtain ⟨d, hd, a, -, rfl⟩ := Outcome.exists_getElem?_of_forall₂ (fields_of_compile hschema) hi
    unfold checkField
    rw [h d (List.mem_of_getElem? hd)]
  unfold check
  rw [List.map_congr_left hsame]

end Schema

/-! ## Resolving options -/

namespace OptionValues

variable {rule : String} {declared : List Declaration} {schema : Schema}
  {config others : RuleConfig} {o : OptionValues}

/-- What is read under each name after the options of a configuration were resolved. -/
structure Answers (rule : String) (declared : List Declaration) (config : RuleConfig)
    (o : OptionValues) : Prop where
  /-- A value is that which the last option of the name makes of what is supplied. -/
  value : ∀ name w, o.get name = .ok w ↔ ∃ d a v, Declaration.named? declared name = some d ∧
    Acceptor.ofDeclaration d = .ok a ∧ Declaration.given declared config name = some v ∧ a v = .ok w
  missing : ∀ name, o.get name = .error (.option (.missing rule name)) ↔
    name ∈ declared.map (·.name) ∧ Declaration.given declared config name = none
  notDeclared : ∀ name, o.get name = .error (.option (.notDeclared rule name)) ↔
    name ∉ declared.map (·.name)

theorem declared_of_check (h : check rule declared schema config = .ok o) :
    o.rule = rule ∧ o.declared = declared.map (·.name) := by
  unfold check at h
  split at h
  · cases h
    exact ⟨rfl, rfl⟩
  · cases h

theorem get_of_notMem (h : check rule declared schema config = .ok o) {name : String}
    (hname : name ∉ declared.map (·.name)) :
    o.get name = .error (.option (.notDeclared rule name)) := by
  obtain ⟨hrule, hdeclared⟩ := declared_of_check h
  have hcontains : o.declared.contains name = false := by
    rw [hdeclared]
    simpa using hname
  rw [OptionValues.get, hcontains, hrule]
  rfl

theorem get_cases (hschema : Schema.compile rule declared = .ok schema)
    (h : check rule declared schema config = .ok o) (hoptions : (Keyed.keys config.options).Nodup)
    (name : String) :
    (∃ d a v w, Declaration.named? declared name = some d ∧ Acceptor.ofDeclaration d = .ok a ∧
      Declaration.given declared config name = some v ∧ a v = .ok w ∧ o.get name = .ok w) ∨
    (name ∈ declared.map (·.name) ∧ Declaration.given declared config name = none ∧
      o.get name = .error (.option (.missing rule name))) ∨
    (name ∉ declared.map (·.name) ∧ o.get name = .error (.option (.notDeclared rule name))) := by
  by_cases hname : name ∈ declared.map (·.name)
  · obtain ⟨d, a, hd, ha, hread⟩ := reads_of_check hschema h hname hoptions
    split at hread
    · rename_i v hv
      obtain ⟨w, hw, hget⟩ := hread
      exact .inl ⟨d, a, v, w, hd, ha, hv, hw, hget⟩
    · rename_i hnone
      exact .inr (.inl ⟨hname, hnone, hread⟩)
  · exact .inr (.inr ⟨hname, get_of_notMem h hname⟩)

theorem answers_of_check (hschema : Schema.compile rule declared = .ok schema)
    (h : check rule declared schema config = .ok o) (hoptions : (Keyed.keys config.options).Nodup) :
    Answers rule declared config o := by
  have hmem : ∀ name d, Declaration.named? declared name = some d →
      name ∈ declared.map (·.name) := by
    intro name d hd
    obtain ⟨hmem, rfl⟩ := Declaration.mem_of_named? hd
    exact List.mem_map_of_mem hmem
  refine ⟨?_, ?_, ?_⟩
  · intro name w
    rcases get_cases hschema h hoptions name with
      ⟨d, a, v, w', hd, ha, hv, hw', hget⟩ | ⟨-, hnone, hget⟩ | ⟨hname, hget⟩
    · rw [hget]
      constructor
      · rintro ⟨⟩
        exact ⟨d, a, v, hd, ha, hv, hw'⟩
      · rintro ⟨d', a', v', hd', ha', hv', hw⟩
        cases hd.symm.trans hd'
        cases ha.symm.trans ha'
        cases hv.symm.trans hv'
        cases hw'.symm.trans hw
        rfl
    · simp [hget, hnone]
    · rw [hget]
      constructor
      · rintro ⟨⟩
      · rintro ⟨d, -, -, hd, -⟩
        exact absurd (hmem name d hd) hname
  · intro name
    rcases get_cases hschema h hoptions name with
      ⟨d, a, v, w, -, -, hv, -, hget⟩ | ⟨hname, hnone, hget⟩ | ⟨hname, hget⟩
    · simp [hget, hv]
    · exact iff_of_true hget ⟨hname, hnone⟩
    · simp [hget, hname]
  · intro name
    rcases get_cases hschema h hoptions name with
      ⟨d, a, v, w, hd, -, -, -, hget⟩ | ⟨hname, -, hget⟩ | ⟨hname, hget⟩
    · have hname := hmem name d hd
      simp [hget, hname]
    · simp [hget, hname]
    · exact iff_of_true hget hname

theorem resolve_of_compile (hschema : Schema.compile rule declared = .ok schema) :
    resolve rule declared config = check rule declared schema config := by
  rw [resolve, hschema]
  rfl

theorem check_eq_error_iff (hschema : Schema.compile rule declared = .ok schema)
    (hoptions : (Keyed.keys config.options).Nodup) {f : Fault} :
    check rule declared schema config = .error f ↔
      (∃ d ∈ declared, d.Rejects (Declaration.given declared config d.name)) ∧
        f = .option (.invalid rule (Declaration.problemLines declared config)) := by
  have hgiven : ∀ d ∈ declared, (supplied declared config).get? d.name =
      Declaration.given declared config d.name :=
    fun d hd => get?_supplied (List.mem_map_of_mem hd) hoptions
  have hproblems : (schema.check (supplied declared config)).problems.map Problem.line =
      Declaration.problemLines declared config := by
    rw [Schema.problems_check hschema, List.map_flatMap, Declaration.problemLines]
    exact List.flatMap_congr fun d hd => by rw [hgiven d hd]
  have hok : (∃ values, schema.check (supplied declared config) = .ok values) ↔
      ∀ d ∈ declared, ¬ d.Rejects (Declaration.given declared config d.name) := by
    rw [Schema.exists_check_eq_ok_iff hschema]
    exact forall₂_congr fun d hd => by rw [hgiven d hd]
  unfold check
  cases hcheck : schema.check (supplied declared config) with
  | ok values =>
    have hnone := hok.mp ⟨values, hcheck⟩
    simp only [reduceCtorEq, false_iff]
    rintro ⟨⟨d, hd, hrejects⟩, -⟩
    exact hnone d hd hrejects
  | error problems =>
    rw [hcheck] at hproblems hok
    have hsome : ∃ d ∈ declared, d.Rejects (Declaration.given declared config d.name) := by
      by_contra hnone
      push Not at hnone
      obtain ⟨values, hvalues⟩ := hok.mpr hnone
      cases hvalues
    have hlines : problems.map Problem.line = Declaration.problemLines declared config := hproblems
    simp only [Except.error.injEq, hlines]
    constructor
    · rintro rfl
      exact ⟨hsome, rfl⟩
    · rintro ⟨-, rfl⟩
      rfl

/-- Options are refused exactly when one of them rejects what is supplied for its name, and then
with the problems of all in order. Otherwise each name is answered with what its last option makes
of the supplied value. -/
theorem resolves_pointwise (hschema : Schema.compile rule declared = .ok schema)
    (hoptions : (Keyed.keys config.options).Nodup) :
    (∀ f, resolve rule declared config = .error f ↔
      (∃ d ∈ declared, d.Rejects (Declaration.given declared config d.name)) ∧
        f = .option (.invalid rule (Declaration.problemLines declared config))) ∧
    (∀ d ∈ declared, (d.Rejects (Declaration.given declared config d.name) ↔
        d.problems (Declaration.given declared config d.name) ≠ []) ∧
      ∀ p ∈ d.problems (Declaration.given declared config d.name),
        ∃ rest, p.line = d.name ++ rest) ∧
    (∀ o, resolve rule declared config = .ok o → Answers rule declared config o) ∧
    (∀ others : RuleConfig, (Keyed.keys others.options).Nodup →
      (∀ d ∈ declared, others.options.get? d.name = config.options.get? d.name) →
      resolve rule declared others = resolve rule declared config) := by
  simp only [resolve_of_compile hschema]
  refine ⟨?_, ?_, ?_, ?_⟩
  · intro f
    exact check_eq_error_iff hschema hoptions
  · intro d _
    exact ⟨Declaration.rejects_iff_problems_ne_nil _, fun p => Declaration.exists_of_mem_problems⟩
  · intro o ho
    exact answers_of_check hschema ho hoptions
  · intro others hothers hsame
    unfold check
    rw [Schema.check_congr hschema]
    intro d hd
    have hname := List.mem_map_of_mem (f := Declaration.name) hd
    rw [get?_supplied hname hothers, get?_supplied hname hoptions, hsame d hd]

/-! ## Two options of one name -/

def sharedOptions : List Declaration := [
  { name := "option_1", type := .integer, fallback := some (.whole 1), maximum := .whole 5 },
  { name := "option_1", type := .number },
  { name := "model_config", type := .string, minLength := .whole 2 }]

def sharedConfig (n : Int) (s : String) : RuleConfig where
  active := true
  severity := none
  title := none
  options := [("option_1", .whole n), ("model_config", .str s), ("unknown", .null)]

theorem resolves_pointwise_sharedOptions :
    ∃ schema o, Schema.compile "a/b" sharedOptions = .ok schema ∧
      (Keyed.keys (sharedConfig 9 "x").options).Nodup ∧
      (Keyed.keys (sharedConfig 3 "xy").options).Nodup ∧
      resolve "a/b" sharedOptions (sharedConfig 9 "x") = .error (.option (.invalid "a/b" [
        "option_1: Input should be less than or equal to 5",
        "model_config: String should have at least 2 characters"])) ∧
      resolve "a/b" sharedOptions (sharedConfig 3 "xy") = .ok o ∧
      o.get "option_1" = .ok (.float 3) := by
  have hschema : Schema.compile "a/b" sharedOptions = .ok _ := rfl
  have hbad : (Keyed.keys (sharedConfig 9 "x").options).Nodup := by decide
  have hgood : (Keyed.keys (sharedConfig 3 "xy").options).Nodup := by decide
  have ho : resolve "a/b" sharedOptions (sharedConfig 3 "xy") = .ok _ := rfl
  obtain ⟨hrefused, -, -, -⟩ := resolves_pointwise hschema hbad
  obtain ⟨-, -, hanswers, -⟩ := resolves_pointwise hschema hgood
  refine ⟨_, _, hschema, hbad, hgood, (hrefused _).mpr ⟨?_, ?_⟩, ho, ?_⟩
  · exact ⟨_, List.mem_cons_self, _, .whole 9, _, rfl, rfl, rfl⟩
  · rfl
  · exact ((hanswers _ ho).value _ _).mpr ⟨_, _, .whole 3, rfl, rfl, rfl, rfl⟩

end OptionValues

end DesignLint
