import Mathlib.Data.Int.Order.Basic
import Mathlib.Data.Prod.Lex

/-! # The order of floats -/

namespace DesignLint.FloatOrder

open Float.Model Float.Model.UnpackedFloat

/-- The place of a float in the order: its side of zero, then its exponent and mantissa. -/
def rankOf : UnpackedFloat → Option (ℤ ×ₗ ℤ ×ₗ ℤ)
  | .notANumber => none
  | .infinity .negative => some (toLex (-2, toLex (0, 0)))
  | .finite .negative m e _ => some (toLex (-1, toLex (-e, -m)))
  | .zero _ => some (toLex (0, toLex (0, 0)))
  | .finite .positive m e _ => some (toLex (1, toLex (e, m)))
  | .infinity .positive => some (toLex (2, toLex (0, 0)))

def rank (x : Float) : Option (ℤ ×ₗ ℤ ×ₗ ℤ) := rankOf x.toModel.unpack

/-! ## Comparing is comparing ranks -/

theorem then_eq_lt_iff (e f : ℤ) (m n : ℕ) :
    (compare e f).then (compare m n) = .lt ↔ e < f ∨ e = f ∧ m < n := by
  rw [Ordering.then_eq_lt, compare_lt_iff_lt, compare_eq_iff_eq, compare_lt_iff_lt]

theorem isLE_then_iff (e f : ℤ) (m n : ℕ) :
    ((compare e f).then (compare m n)).isLE = true ↔ e < f ∨ e = f ∧ m ≤ n := by
  rw [Ordering.isLE_then_iff_or, compare_lt_iff_lt, compare_eq_iff_eq, Nat.isLE_compare]

theorem then_eq_gt_iff (e f : ℤ) (m n : ℕ) :
    (compare e f).then (compare m n) = .gt ↔ f < e ∨ e = f ∧ n < m := by
  rw [Ordering.then_eq_gt, compare_gt_iff_gt, compare_eq_iff_eq, compare_gt_iff_gt]

theorem isGE_then_iff (e f : ℤ) (m n : ℕ) :
    ((compare e f).then (compare m n)).isGE = true ↔ f < e ∨ e = f ∧ n ≤ m := by
  rw [← Ordering.isLE_swap, Ordering.swap_then, Int.compare_swap, Nat.compare_swap, isLE_then_iff,
    @eq_comm ℤ f e]

theorem lt_iff_rankOf (a b : UnpackedFloat) :
    a.lt b = true ↔ ∃ p q, rankOf a = some p ∧ rankOf b = some q ∧ p < q := by
  rcases a with (_ | _) | _ | _ | ⟨_ | _, m, e, _⟩ <;>
    rcases b with (_ | _) | _ | _ | ⟨_ | _, n, f, _⟩ <;>
    dsimp only [UnpackedFloat.lt, UnpackedFloat.compare, rankOf] <;>
    simp [then_eq_lt_iff, then_eq_gt_iff, Prod.Lex.toLex_lt_toLex]
  -- Two infinities are left, which are compared by their signs.
  all_goals rfl

theorem le_iff_rankOf (a b : UnpackedFloat) :
    a.le b = true ↔ ∃ p q, rankOf a = some p ∧ rankOf b = some q ∧ p ≤ q := by
  rcases a with (_ | _) | _ | _ | ⟨_ | _, m, e, _⟩ <;>
    rcases b with (_ | _) | _ | _ | ⟨_ | _, n, f, _⟩ <;>
    dsimp only [UnpackedFloat.le, UnpackedFloat.compare, rankOf] <;>
    simp [isLE_then_iff, isGE_then_iff, Prod.Lex.toLex_le_toLex]
  all_goals rfl

theorem beq_iff_rankOf (a b : UnpackedFloat) :
    a.beq b = true ↔ ∃ p, rankOf a = some p ∧ rankOf b = some p := by
  rcases a with (_ | _) | _ | _ | ⟨_ | _, m, e, _⟩ <;>
    rcases b with (_ | _) | _ | _ | ⟨_ | _, n, f, _⟩ <;>
    dsimp only [UnpackedFloat.beq, UnpackedFloat.compare, rankOf] <;>
    simp
  case infinity.negative.infinity.negative | infinity.positive.infinity.positive => rfl
  all_goals omega

theorem lt_iff (x y : Float) : x < y ↔ ∃ p q, rank x = some p ∧ rank y = some q ∧ p < q :=
  decide_eq_true_iff.trans (lt_iff_rankOf x.toModel.unpack y.toModel.unpack)

theorem le_iff (x y : Float) : x ≤ y ↔ ∃ p q, rank x = some p ∧ rank y = some q ∧ p ≤ q :=
  decide_eq_true_iff.trans (le_iff_rankOf x.toModel.unpack y.toModel.unpack)

theorem beq_iff (x y : Float) : (x == y) = true ↔ ∃ p, rank x = some p ∧ rank y = some p :=
  beq_iff_rankOf x.toModel.unpack y.toModel.unpack

/-! ## Laws -/

variable {x y z : Float}

theorem le_of_lt (h : x < y) : x ≤ y := by
  obtain ⟨p, q, hp, hq, hlt⟩ := (lt_iff x y).mp h
  exact (le_iff x y).mpr ⟨p, q, hp, hq, hlt.le⟩

theorem beq_symm (h : (x == y) = true) : (y == x) = true := by
  obtain ⟨p, hp, hq⟩ := (beq_iff x y).mp h
  exact (beq_iff y x).mpr ⟨p, hq, hp⟩

theorem ge_of_beq (h : (x == y) = true) : y ≤ x := by
  obtain ⟨p, hp, hq⟩ := (beq_iff x y).mp h
  exact (le_iff y x).mpr ⟨p, p, hq, hp, le_rfl⟩

theorem le_trans (h : x ≤ y) (k : y ≤ z) : x ≤ z := by
  obtain ⟨p, q, hp, hq, hle⟩ := (le_iff x y).mp h
  obtain ⟨q', s, hq', hs, hle'⟩ := (le_iff y z).mp k
  obtain rfl : q = q' := Option.some.inj (hq.symm.trans hq')
  exact (le_iff x z).mpr ⟨p, s, hp, hs, hle.trans hle'⟩

theorem lt_of_lt_of_le (h : x < y) (k : y ≤ z) : x < z := by
  obtain ⟨p, q, hp, hq, hlt⟩ := (lt_iff x y).mp h
  obtain ⟨q', s, hq', hs, hle⟩ := (le_iff y z).mp k
  obtain rfl : q = q' := Option.some.inj (hq.symm.trans hq')
  exact (lt_iff x z).mpr ⟨p, s, hp, hs, hlt.trans_le hle⟩

theorem lt_of_le_of_lt (h : x ≤ y) (k : y < z) : x < z := by
  obtain ⟨p, q, hp, hq, hle⟩ := (le_iff x y).mp h
  obtain ⟨q', s, hq', hs, hlt⟩ := (lt_iff y z).mp k
  obtain rfl : q = q' := Option.some.inj (hq.symm.trans hq')
  exact (lt_iff x z).mpr ⟨p, s, hp, hs, hle.trans_lt hlt⟩

theorem not_le_of_lt (h : x < y) : ¬ y ≤ x := by
  intro k
  obtain ⟨p, q, hp, hq, hlt⟩ := (lt_iff x x).mp (lt_of_lt_of_le h k)
  obtain rfl : p = q := Option.some.inj (hp.symm.trans hq)
  exact hlt.false

end DesignLint.FloatOrder
