import DesignLint.Proofs.Keyed
import DesignLint.Proofs.RuleOption.Config

/-!
# Flat forms that are written

Reading what was written gives the same configuration, except that an empty title is none.
-/

namespace DesignLint.RuleConfig

open Keyed

variable {c : RuleConfig} {d : Keyed Json} {k : String}

/-! ## Options apart from reserved keys -/

/-- The options are named apart from each other and from the reserved keys. -/
structure HasPlainOptions (c : RuleConfig) : Prop where
  distinct : (keys c.options).Nodup
  unreserved : ∀ k ∈ keys c.options, k ∉ reservedKeys

theorem Says.hasPlainOptions (h : c.Says d) (hd : (keys d).Nodup) : c.HasPlainOptions where
  distinct := by
    rw [h.options, optionsOf, keys_only]
    exact hd.filter _
  unreserved k hk := by
    rw [h.options, optionsOf, keys_only] at hk
    simpa using (List.mem_filter.mp hk).2

/-! ## Flat forms in order -/

def shownTitle (c : RuleConfig) : Option String := if c.title = some "" then none else c.title

def trailer (c : RuleConfig) : Keyed Json :=
  (c.severity.map fun s => ("severity", Json.str s.name)).toList ++
    (c.shownTitle.map fun t => ("rule_title", Json.str t)).toList

theorem toFlat_eq_merge (c : RuleConfig) :
    c.toFlat = (merge [("active", .bool c.active)] c.options).merge c.trailer := by
  obtain ⟨active, severity, title, options⟩ := c
  rw [toFlat, trailer, shownTitle]
  rcases title with _ | t
  · cases severity <;> rfl
  · by_cases ht : t = ""
    · subst ht
      cases severity <;> rfl
    · have hne : t.isEmpty = false := by simpa using ht
      cases severity <;> simp [hne, ht, merge]

theorem keys_trailer_sublist (c : RuleConfig) :
    (keys c.trailer).Sublist ["severity", "rule_title"] := by
  rw [trailer]
  cases c.severity <;> cases c.shownTitle <;> simp [keys]

theorem toFlat_eq (h : c.HasPlainOptions) :
    c.toFlat = ("active", .bool c.active) :: (c.options ++ c.trailer) := by
  have htrailer := c.keys_trailer_sublist
  have hactive : merge [("active", .bool c.active)] c.options =
      ("active", .bool c.active) :: c.options := by
    refine merge_eq_append h.distinct fun k hk hmem => ?_
    obtain rfl : k = "active" := List.mem_singleton.mp hmem
    exact h.unreserved _ hk (by decide)
  rw [toFlat_eq_merge, hactive, merge_eq_append (htrailer.nodup (by decide)), List.cons_append]
  intro k hk hmem
  have hlate : k ∈ ["severity", "rule_title"] := htrailer.subset hk
  rcases List.mem_cons.mp hmem with rfl | hoption
  · simp at hlate
  · refine h.unreserved k hoption ?_
    have hall : ∀ k ∈ ["severity", "rule_title"], k ∈ reservedKeys := by decide
    exact hall k hlate

/-! ## Reading what was written -/

theorem optionsOf_toFlat (h : c.HasPlainOptions) : optionsOf c.toFlat = c.options := by
  have hkept : c.options.only (!reservedKeys.contains ·) = c.options :=
    only_eq_self fun e he => by simpa using h.unreserved e.1 (List.mem_map_of_mem he)
  have htrailer : c.trailer.only (!reservedKeys.contains ·) = [] := by
    rw [trailer]
    cases c.severity <;> cases c.shownTitle <;> rfl
  rw [only] at hkept htrailer
  rw [optionsOf, toFlat_eq h, only, List.filter_cons_of_neg (by simp [reservedKeys]),
    List.filter_append, hkept, htrailer, List.append_nil]

theorem get?_toFlat (h : c.HasPlainOptions) (hk : k ∈ reservedKeys) :
    c.toFlat.get? k = get? (("active", .bool c.active) :: c.trailer) k := by
  have hnone : c.options.get? k = none := get?_eq_none_iff.mpr fun hmem => h.unreserved k hmem hk
  rw [toFlat_eq h, get?_cons, get?_append, hnone, Option.none_or, get?_cons]

/-- The configuration that is left when an empty title counts as none. -/
def settled (c : RuleConfig) : RuleConfig := { c with title := c.shownTitle }

theorem says_toFlat (h : c.HasPlainOptions) : c.settled.Says c.toFlat where
  active := by
    rw [flagIn, get?_toFlat h (by decide)]
    rfl
  severity := by
    rw [severityIn, get?_toFlat h (by decide), trailer, settled]
    cases c.severity <;> cases c.shownTitle <;> rfl
  title := by
    rw [titleIn, first?, first?, first?, get?_toFlat h (by decide), get?_toFlat h (by decide),
      trailer, settled]
    cases c.severity <;> cases c.shownTitle <;> rfl
  options := (optionsOf_toFlat h).symm

theorem toFlat_settled (h : c.HasPlainOptions) : c.settled.toFlat = c.toFlat := by
  have hshown : c.settled.shownTitle = c.shownTitle := by
    rw [settled, shownTitle, shownTitle]
    split <;> simp_all
  rw [toFlat_eq h, toFlat_eq (c := c.settled) ⟨h.distinct, h.unreserved⟩, trailer, trailer, hshown]
  rfl

/-! ## The normal form -/

theorem get?_unreserved (h : c.Says d) (hd : (keys d).Nodup) (hk : k ∉ reservedKeys) :
    c.options.get? k = d.get? k ∧ c.toFlat.get? k = d.get? k := by
  have hoption : c.options.get? k = d.get? k := by rw [h.options, get?_optionsOf hk]
  have hwritten : c.toFlat.get? k = c.options.get? k := by
    rw [← get?_optionsOf hk c.toFlat, optionsOf_toFlat (h.hasPlainOptions hd)]
  exact ⟨hoption, hwritten.trans hoption⟩

/-- What is written of a configuration that was read is a normal form: reading it gives the same
configuration without an empty title, and that is written as before. -/
theorem toFlat_normal {given : ConfigInput} {rule : String} {names : List Json}
    (hflat : given.flat? = some (names, d)) (hd : (keys d).Nodup)
    (hread : coerce rule given = .ok c) :
    names = [] ∧ ofFlat (.obj d) = .ok c ∧
      (∃ c', ofFlat (.obj c.toFlat) = .ok c' ∧ c'.toFlat = c.toFlat ∧
        c'.active = c.active ∧ c'.severity = c.severity ∧ c'.options = c.options ∧
        c'.title = if c.title = some "" then none else c.title) ∧
      (∀ k ∉ reservedKeys, c.options.get? k = d.get? k ∧ c.toFlat.get? k = d.get? k) ∧
      ∀ k ∈ reservedKeys, c.options.has k = false := by
  rw [ConfigInput.coerce_of_flat? hflat] at hread
  obtain ⟨hnames, hform⟩ := ofFlatFor_eq_ok_iff.mp hread
  have hplain := hform.hasPlainOptions hd
  refine ⟨hnames, ofFlat_eq_ok_iff.mpr hform, ?_, fun k hk => get?_unreserved hform hd hk, ?_⟩
  · exact ⟨c.settled, ofFlat_eq_ok_iff.mpr (says_toFlat hplain), toFlat_settled hplain, rfl, rfl,
      rfl, rfl⟩
  · intro k hk
    have hnone : c.options.get? k = none :=
      get?_eq_none_iff.mpr fun hmem => hplain.unreserved k hmem hk
    rw [has, hnone]
    rfl

def untitledFlat : Keyed Json := [("min_size", .whole 44), ("ruleTitle", .str ""),
  ("severity", .str "warn"), ("allowed", .texts ["Bold"])]

theorem toFlat_normal_untitledFlat : ∃ c, ofFlat (.obj untitledFlat) = .ok c ∧
    c.title = some "" ∧ ∃ c', ofFlat (.obj c.toFlat) = .ok c' ∧ c'.toFlat = c.toFlat ∧
      c'.title = none ∧ c'.options = c.options := by
  let c : RuleConfig :=
    ⟨true, some .warn, some "", [("min_size", .whole 44), ("allowed", .texts ["Bold"])]⟩
  have hflat : (ConfigInput.flat (.obj untitledFlat)).flat? = some ([], untitledFlat) := rfl
  have hread : coerce "a/b" (.flat (.obj untitledFlat)) = .ok c := rfl
  obtain ⟨-, hread, ⟨c', hagain, hwritten, -, -, hoptions, htitle⟩, -⟩ :=
    toFlat_normal hflat (by decide) hread
  exact ⟨c, hread, rfl, c', hagain, hwritten, htitle, hoptions⟩

end DesignLint.RuleConfig
