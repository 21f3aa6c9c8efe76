import DesignLint.Number.Basic
import DesignLint.Proofs.Number.FloatOrder
import Mathlib.Algebra.Order.Field.Power
import Mathlib.Data.Nat.Cast.Field
import Mathlib.Data.Rat.Cast.Order
import Mathlib.Tactic.Positivity
import Mathlib.Tactic.Ring

/-! # The numbers that floats are -/

namespace DesignLint.FloatOrder

open Float.Model Float.Model.UnpackedFloat

/-! ## Mantissas and exponents -/

/-- The mantissa fits, and has all its bits unless the exponent is the least one. -/
structure Canonical (m : ℕ) (e : ℤ) : Prop where
  mantissa : m < 2 ^ 53
  exponent : -1074 ≤ e
  full : 2 ^ 52 ≤ m ∨ e = -1074

theorem finite_congr {s t : Sign} {m n : ℕ} {e f : ℤ} {hm : 0 < m} {hn : 0 < n} (hs : s = t)
    (hmn : m = n) (he : e = f) : UnpackedFloat.finite s m e hm = .finite t n f hn := by
  subst hs hmn he
  rfl

theorem toNat_append_one (v : BitVec 52) : (1#1 ++ v).toNat = 2 ^ 52 + v.toNat := by
  rw [BitVec.toNat_append, ← Nat.shiftLeft_add_eq_or_of_lt v.isLt]
  rfl

section Unpack

variable {b : BitVec Format.binary64.numBits} {s : Sign} {m : ℕ} {e : ℤ} {hm : 0 < m}

/-- With the least exponent the mantissa is the one that is stored. With any other one a bit stands
before it that is not stored. -/
theorem unpack_finite_cases (h : UnpackedFloat.unpack .binary64 b = .finite s m e hm) :
    m = (unpackMantissa b).toNat ∧ e = -1074 ∨
      m = 2 ^ 52 + (unpackMantissa b).toNat ∧ e = (unpackExponent b).toNat - 1075 ∧
        unpackExponent b ≠ 0#11 ∧ unpackExponent b ≠ -1#11 := by
  unfold UnpackedFloat.unpack at h
  dsimp only at h
  by_cases hgreatest : unpackExponent b = -1#11
  · rw [if_pos hgreatest] at h
    by_cases hzero : unpackMantissa b = 0#52
    · rw [if_pos hzero] at h; cases h
    · rw [if_neg hzero] at h; cases h
  rw [if_neg hgreatest] at h
  by_cases hleast : unpackExponent b = 0#11
  · rw [if_pos hleast] at h
    by_cases hzero : unpackMantissa b = 0#52
    · rw [dif_pos hzero] at h; cases h
    · rw [dif_neg hzero] at h
      cases h
      rw [hleast]
      exact .inl ⟨rfl, rfl⟩
  · rw [if_neg hleast] at h
    cases h
    exact .inr ⟨toNat_append_one _, rfl, hleast, hgreatest⟩

theorem canonical_of_unpack (h : UnpackedFloat.unpack .binary64 b = .finite s m e hm) :
    Canonical m e := by
  have hbits : (unpackMantissa b).toNat < 2 ^ 52 := (unpackMantissa b).isLt
  rcases unpack_finite_cases h with ⟨rfl, rfl⟩ | ⟨rfl, rfl, hleast, -⟩
  · exact ⟨by omega, le_rfl, .inr rfl⟩
  · have hpos : (unpackExponent b).toNat ≠ 0 := fun hzero => hleast (BitVec.eq_of_toNat_eq hzero)
    exact ⟨by omega, by omega, .inl (by omega)⟩

theorem exponent_le_of_unpack (h : UnpackedFloat.unpack .binary64 b = .finite s m e hm) :
    e ≤ 971 := by
  have hwidth : (unpackExponent b).toNat < 2 ^ 11 := (unpackExponent b).isLt
  rcases unpack_finite_cases h with ⟨-, rfl⟩ | ⟨-, rfl, -, hgreatest⟩
  · decide
  · have hne : (unpackExponent b).toNat ≠ 2047 := fun heq => hgreatest (BitVec.eq_of_toNat_eq heq)
    omega

end Unpack

/-! ## Values -/

/-- The number that a finite float is. -/
def valueOf : UnpackedFloat → Option ℚ
  | .zero _ => some 0
  | .finite .positive m e _ => some (m * 2 ^ e)
  | .finite .negative m e _ => some (-(m * 2 ^ e))
  | .infinity _ => none
  | .notANumber => none

def value (x : Float) : Option ℚ := valueOf x.toModel.unpack

/-- Of two positive floats the one with the greater exponent, or else with the greater mantissa, is the
greater number. -/
theorem mul_zpow_lt {m n : ℕ} {e f : ℤ} (hm : Canonical m e) (hn : Canonical n f)
    (h : e < f ∨ e = f ∧ m < n) : (m : ℚ) * 2 ^ e < n * 2 ^ f := by
  rcases h with hlt | ⟨rfl, hlt⟩
  · have hfull : 2 ^ 52 ≤ n := hn.full.resolve_right (by have := hm.exponent; omega)
    calc (m : ℚ) * 2 ^ e < 2 ^ 53 * 2 ^ e := by
          gcongr
          exact_mod_cast hm.mantissa
      _ = 2 ^ 52 * 2 ^ (e + 1) := by
          rw [zpow_add_one₀ two_ne_zero]
          ring
      _ ≤ n * 2 ^ f := by
          gcongr
          · exact_mod_cast hfull
          · norm_num
          · omega
  · gcongr

theorem mul_zpow_pos {m : ℕ} (hm : 0 < m) (e : ℤ) : (0 : ℚ) < m * 2 ^ e := by positivity

def IsCanonical (u : UnpackedFloat) : Prop :=
  ∀ s m e hm, u = .finite s m e hm → Canonical m e

theorem isCanonical_unpack (x : Float) : IsCanonical x.toModel.unpack := fun _ _ _ _ h =>
  canonical_of_unpack h

variable {u v : UnpackedFloat} {p q : ℤ ×ₗ ℤ ×ₗ ℤ} {a b : ℚ}

theorem exists_rankOf (ha : valueOf u = some a) : ∃ p, rankOf u = some p := by
  cases u with
  | infinity s => cases ha
  | notANumber => cases ha
  | zero s => exact ⟨_, rfl⟩
  | finite s m e hm => cases s <;> exact ⟨_, rfl⟩

theorem eq_of_rankOf_eq (hp : rankOf u = some p) (hq : rankOf v = some p)
    (ha : valueOf u = some a) (hb : valueOf v = some b) : a = b := by
  rcases u with (_ | _) | _ | _ | ⟨_ | _, m, e, hm⟩ <;>
    rcases v with (_ | _) | _ | _ | ⟨_ | _, n, f, hn⟩ <;>
    cases ha <;> cases hb <;> cases hp <;> dsimp only [rankOf] at hq <;> simp_all

theorem lt_of_rankOf_lt (hu : IsCanonical u) (hv : IsCanonical v) (hp : rankOf u = some p)
    (hq : rankOf v = some q) (ha : valueOf u = some a) (hb : valueOf v = some b) (h : p < q) :
    a < b := by
  rcases u with (_ | _) | _ | _ | ⟨_ | _, m, e, hm⟩ <;>
    rcases v with (_ | _) | _ | _ | ⟨_ | _, n, f, hn⟩ <;>
    cases ha <;> cases hb <;> cases hp <;> cases hq <;>
    simp [Prod.Lex.toLex_lt_toLex] at h
  -- What is left is zero and a positive one, a negative one and each kind, and two positive ones.
  · exact mul_zpow_pos hn f
  · exact neg_neg_of_pos (mul_zpow_pos hm e)
  · exact neg_lt_neg (mul_zpow_lt (hv _ _ _ _ rfl) (hu _ _ _ _ rfl) (by omega))
  · exact (neg_neg_of_pos (mul_zpow_pos hm e)).trans (mul_zpow_pos hn f)
  · exact mul_zpow_lt (hu _ _ _ _ rfl) (hv _ _ _ _ rfl) h

theorem rankOf_lt_iff (hu : IsCanonical u) (hv : IsCanonical v) (hp : rankOf u = some p)
    (hq : rankOf v = some q) (ha : valueOf u = some a) (hb : valueOf v = some b) :
    p < q ↔ a < b := by
  constructor
  · exact lt_of_rankOf_lt hu hv hp hq ha hb
  · intro h
    rcases lt_trichotomy p q with hlt | rfl | hlt
    · exact hlt
    · exact absurd (eq_of_rankOf_eq hp hq ha hb) h.ne
    · exact absurd (lt_of_rankOf_lt hv hu hq hp hb ha hlt) h.asymm

/-! ## The order of finite floats -/

variable {x y : Float}

theorem lt_iff_value (hx : value x = some a) (hy : value y = some b) : x < y ↔ a < b := by
  obtain ⟨p, hp⟩ := exists_rankOf hx
  obtain ⟨q, hq⟩ := exists_rankOf hy
  have hrank := rankOf_lt_iff (isCanonical_unpack x) (isCanonical_unpack y) hp hq hx hy
  rw [lt_iff, ← hrank]
  simp [rank, hp, hq]

theorem le_iff_value (hx : value x = some a) (hy : value y = some b) : x ≤ y ↔ a ≤ b := by
  obtain ⟨p, hp⟩ := exists_rankOf hx
  obtain ⟨q, hq⟩ := exists_rankOf hy
  have hrank := rankOf_lt_iff (isCanonical_unpack y) (isCanonical_unpack x) hq hp hy hx
  rw [le_iff, ← not_lt, ← hrank, not_lt]
  simp [rank, hp, hq]

theorem exists_value (h : x.isFinite = true) : ∃ a, value x = some a := by
  have hfinite : x.toModel.unpack.isFinite = true := h
  unfold value
  cases hu : x.toModel.unpack with
  | infinity s => rw [hu] at hfinite; cases hfinite
  | notANumber => rw [hu] at hfinite; cases hfinite
  | zero s => exact ⟨0, rfl⟩
  | finite s m e hm => cases s <;> exact ⟨_, rfl⟩

theorem mul_zpow_of_mod_eq_zero {m : ℕ} {e : ℤ} (he : ¬ 0 ≤ e)
    (hmod : m % Nat.pow 2 (-e).toNat = 0) :
    (m : ℚ) * 2 ^ e = ((m / Nat.pow 2 (-e).toNat : ℕ) : ℚ) := by
  obtain ⟨k, rfl⟩ : ∃ k : ℕ, e = -k := ⟨(-e).toNat, by omega⟩
  rw [neg_neg, Int.toNat_natCast] at hmod ⊢
  rw [Nat.cast_div (Nat.dvd_of_mod_eq_zero hmod) (by simp), zpow_neg, zpow_natCast, div_eq_mul_inv]
  simp

theorem mul_zpow_of_nonneg {m : ℕ} {e : ℤ} (he : 0 ≤ e) :
    (m : ℚ) * 2 ^ e = ((m * Nat.pow 2 e.toNat : ℕ) : ℚ) := by
  obtain ⟨k, rfl⟩ := Int.eq_ofNat_of_zero_le he
  simp

theorem value_of_wholeOf? {n : ℤ} (h : Number.wholeOf? x = some n) : value x = some (n : ℚ) := by
  unfold Number.wholeOf? at h
  unfold value
  cases hu : x.toModel.unpack with
  | infinity s => rw [hu] at h; cases h
  | notANumber => rw [hu] at h; cases h
  | zero s =>
    rw [hu] at h
    cases h
    exact congrArg some Int.cast_zero.symm
  | finite s m e hm =>
    rw [hu] at h
    dsimp only at h
    split at h
    · rename_i he
      cases h
      cases s <;> dsimp only [valueOf] <;> rw [mul_zpow_of_nonneg he] <;> push_cast <;> rfl
    · rename_i he
      split at h
      · rename_i hmod
        cases h
        cases s <;> dsimp only [valueOf] <;> rw [mul_zpow_of_mod_eq_zero he hmod] <;> push_cast <;>
          rfl
      · cases h

end DesignLint.FloatOrder
