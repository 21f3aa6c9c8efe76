import DesignLint.Field
import DesignLint.Proofs.Outcome

/-! # Fields that were read -/

namespace DesignLint.Field

variable {α : Type} {names : List String} {read : Json → Checked α} {record : Keyed Json} {a : α}

theorem text_eq_ok_iff {v : Json} {s : String} : text v = .ok s ↔ v = .str s := by
  cases v <;> simp [text, Checked.complain]

theorem nonemptyText_eq_ok_iff {v : Json} {s : String} :
    nonemptyText v = .ok s ↔ v = .str s ∧ s ≠ "" := by
  cases v with
  | str t =>
    by_cases ht : t = ""
    · subst ht
      simp [nonemptyText, Checked.complain]
    · simp only [nonemptyText, String.isEmpty_iff, ht, if_false, Except.ok.injEq, Json.str.injEq]
      constructor
      · rintro rfl
        exact ⟨rfl, ht⟩
      · exact And.left
  | _ => simp [nonemptyText, Checked.complain]

theorem required_eq_ok_iff : required names read record = .ok a ↔
    ∃ k v, record.first? names = some (k, v) ∧ read v = .ok a := by
  unfold required
  split
  · rename_i k v hfirst
    rw [Checked.within, Outcome.mapError_eq_ok_iff]
    constructor
    · intro h
      exact ⟨k, v, hfirst, h⟩
    · rintro ⟨k', v', hfirst', h⟩
      cases hfirst.symm.trans hfirst'
      exact h
  · rename_i hfirst
    simp [hfirst, Checked.within, Checked.complain, Except.mapError]

theorem getD_of_defaulted_text {k value s : String} (h : defaulted [k] text value record = .ok s) :
    (record.get? k).getD (.str value) = .str s := by
  cases hget : record.get? k with
  | none =>
    simp only [defaulted, Keyed.first?, hget, Except.ok.injEq] at h
    rw [h, Option.getD_none]
  | some v =>
    simp only [defaulted, Keyed.first?, hget, Checked.within, Outcome.mapError_eq_ok_iff] at h
    rw [text_eq_ok_iff.mp h, Option.getD_some]

end DesignLint.Field
