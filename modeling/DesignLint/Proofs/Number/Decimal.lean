import DesignLint.Number.Shortest
import DesignLint.Proofs.Number.Packing
import DesignLint.Proofs.Number.Rounding

/-!
# Decimals as floats

All decimals that stand for one number are read as the same float, whichever way it is computed.
-/

namespace DesignLint.Rounding

open Float.Model Float.Model.UnpackedFloat FloatOrder Packing

variable {m : ℕ} {p : ℤ}

/-! ## Mantissas of any size -/

theorem pack_congr {u v : UnpackedFloat}
    (h : UnpackedFloat.pack .binary64 u = UnpackedFloat.pack .binary64 v) :
    Float.Model.pack u = Float.Model.pack v := by
  exact (Float.Model.mk.injEq ..).mpr (congrArg UInt64.ofBitVec h)

theorem decimal_pos (hm : 0 < m) (p : ℤ) : (0 : ℚ) < m * 10 ^ p := by positivity

theorem pos_of_decimal_pos (h : (0 : ℚ) < m * 10 ^ p) : 0 < m := by
  have hm : (0 : ℚ) < m := pos_of_mul_pos_left h (by positivity)
  exact_mod_cast hm

theorem eight_zpow (p : ℤ) : ((2 : ℕ) : ℚ) ^ (3 * p) = 8 ^ p := by
  rw [zpow_mul]
  norm_num

theorem log_decimal_ge (hm : 0 < m) (hp : 0 ≤ p) : 3 * p ≤ Int.log 2 ((m : ℚ) * 10 ^ p) := by
  have hm' : (1 : ℚ) ≤ m := by exact_mod_cast hm
  have hpow : (8 : ℚ) ^ p ≤ 10 ^ p := zpow_le_zpow_left₀ hp (by norm_num) (by norm_num)
  refine (Int.zpow_le_iff_le_log one_lt_two (decimal_pos hm p)).mp ?_
  rw [eight_zpow, ← one_mul ((8 : ℚ) ^ p)]
  gcongr

theorem log_decimal_lt (hm : 0 < m) (hp : p ≤ 0) :
    Int.log 2 ((m : ℚ) * 10 ^ p) < m.log2 + 1 + 3 * p := by
  have hm' : (m : ℚ) < 2 ^ (m.log2 + 1) := by exact_mod_cast Nat.lt_log2_self
  have hpow : (10 : ℚ) ^ p ≤ 8 ^ p := by
    obtain ⟨n, rfl⟩ : ∃ n : ℕ, p = -n := ⟨(-p).toNat, by omega⟩
    rw [zpow_neg, zpow_neg, zpow_natCast, zpow_natCast]
    gcongr
    norm_num
  refine (Int.lt_zpow_iff_log_lt one_lt_two (decimal_pos hm p)).mp ?_
  rw [zpow_add₀ (by norm_num), eight_zpow]
  calc (m : ℚ) * 10 ^ p ≤ m * 8 ^ p := by gcongr
    _ < 2 ^ (m.log2 + 1) * 8 ^ p := by gcongr
    _ = ((2 : ℕ) : ℚ) ^ ((m.log2 : ℤ) + 1) * 8 ^ p := by norm_cast

theorem model_ofScientific_eq (hm : 0 < m) (p : ℤ) :
    Float.Model.ofScientific m p = .pack (nearest .positive (m * 10 ^ p)) := by
  unfold Float.Model.ofScientific UnpackedFloat.ofScientific
  have hwidth : (2 : ℤ) ^ Format.binary64.exponentBits = 2048 := rfl
  rw [dif_neg hm.ne', hwidth]
  by_cases hgreat : p > 2048
  · rw [if_pos hgreat]
    have hlog := log_decimal_ge hm (p := p) (by omega)
    exact pack_congr (pack_nearest_of_great .positive (decimal_pos hm p) (by omega)).symm
  rw [if_neg hgreat]
  by_cases hsmall : p < -(2048 + (m.log2 : ℤ))
  · rw [if_pos hsmall]
    have hlog := log_decimal_lt hm (p := p) (by omega)
    rw [nearest_of_small .positive (decimal_pos hm p) (by omega)]
  rw [if_neg hsmall]
  by_cases hp : 0 ≤ p
  · rw [if_pos hp]
    obtain ⟨n, rfl⟩ := Int.eq_ofNat_of_zero_le hp
    have hbits : 2 ^ 52 ≤ m <<< 53 * 10 ^ (n : ℤ).toNat := by
      rw [Nat.shiftLeft_eq]
      calc 2 ^ 52 ≤ 1 * 2 ^ 53 * 1 := by norm_num
        _ ≤ m * 2 ^ 53 * 10 ^ (n : ℤ).toNat := by
          gcongr
          · exact hm
          · exact Nat.one_le_pow _ _ (by norm_num)
    have hvalue : ((m <<< 53 : ℕ) : ℚ) * 2 ^ (-53 : ℤ) *
        ((10 ^ (n : ℤ).toNat : ℕ) * 2 ^ (0 : ℤ)) = m * 10 ^ (n : ℤ) := by
      rw [Nat.shiftLeft_eq, Int.toNat_natCast, zpow_natCast]
      push_cast
      norm_num
      ring
    rw [← hvalue, ← mul_eq _ _ hbits]
    rfl
  · rw [if_neg hp]
    obtain ⟨n, hn⟩ : ∃ n : ℕ, p = -n := ⟨(-p).toNat, by omega⟩
    subst hn
    have hvalue : (m : ℚ) * 2 ^ (0 : ℤ) / ((10 ^ (- -(n : ℤ)).toNat : ℕ) * 2 ^ (0 : ℤ)) =
        m * 10 ^ (-(n : ℤ)) := by
      rw [neg_neg, Int.toNat_natCast, zpow_neg, zpow_natCast]
      push_cast
      norm_num
      rfl
    rw [← hvalue, ← div_eq hm (by positivity)]

/-! ## Exact factors -/

theorem exists_unpack_toFloat (hm : 0 < m) (hlt : m < 2 ^ 53) :
    ∃ n e hn, m.toUInt64.toFloat.toModel.unpack = .finite .positive n e hn ∧ 2 ^ 52 ≤ n ∧
      (n : ℚ) * 2 ^ e = m := by
  have hlog : m.log2 < 53 := (Nat.log2_lt hm.ne').mpr hlt
  obtain ⟨k, hk⟩ : ∃ k, m.log2 + k = 52 := ⟨52 - m.log2, by omega⟩
  have hlow : 2 ^ 52 ≤ m * 2 ^ k := by
    rw [← hk, pow_add]
    exact Nat.mul_le_mul_right _ (Nat.log2_self_le hm.ne')
  have hhigh : m * 2 ^ k < 2 ^ 53 := by
    rw [show 53 = m.log2 + 1 + k by omega, pow_add]
    exact Nat.mul_lt_mul_of_pos_right Nat.lt_log2_self (by positivity)
  have hcanonical : Canonical (m * 2 ^ k) (-k) := ⟨hhigh, by omega, .inl hlow⟩
  have hpos : 0 < m * 2 ^ k := by positivity
  have hvalue : ((m * 2 ^ k : ℕ) : ℚ) * 2 ^ (-k : ℤ) = m := by
    rw [zpow_neg, zpow_natCast]
    push_cast
    field_simp
  have hnat : m.toUInt64.toNat = m := Nat.mod_eq_of_lt (by omega)
  have hcompare : compare (m : ℤ) 0 = .gt := compare_gt_iff_gt.mpr (by omega)
  have hround : UnpackedFloat.ofUInt64 .binary64 m.toUInt64 =
      .finite .positive (m * 2 ^ k) (-k) hpos := by
    rw [UnpackedFloat.ofUInt64, hnat, UnpackedFloat.ofNat, UnpackedFloat.ofInt,
      UnpackedFloat.normalize.eq_def, hcompare]
    change UnpackedFloat.round .binary64 .positive m 0 = _
    rw [round_eq .positive hm, zpow_zero, mul_one, ← nearest_of_canonical .positive hpos hcanonical,
      hvalue]
  refine ⟨m * 2 ^ k, -k, hpos, ?_, hlow, hvalue⟩
  change (Float.Model.pack (UnpackedFloat.ofUInt64 .binary64 m.toUInt64)).unpack = _
  rw [hround]
  exact unpack_pack (fits_finite hcanonical (by omega))

theorem wholeOf?_powerOfTen (e : Fin 23) :
    Number.wholeOf? (Float.exactlyRepresentablePowersOfTen[e]) = some (10 ^ (e : ℕ)) := by
  revert e
  decide +kernel

theorem exists_unpack_of_value_pos {x : Float} {q : ℚ} (h : value x = some q) (hq : 0 < q) :
    ∃ n e hn, x.toModel.unpack = .finite .positive n e hn ∧ (n : ℚ) * 2 ^ e = q := by
  unfold value at h
  cases hx : x.toModel.unpack with
  | notANumber => rw [hx] at h; cases h
  | infinity s => rw [hx] at h; cases h
  | zero s =>
    rw [hx] at h
    cases h
    exact absurd hq (lt_irrefl 0)
  | finite s n e hn =>
    rw [hx] at h
    cases s with
    | positive => exact ⟨n, e, hn, rfl, Option.some.inj h⟩
    | negative =>
      cases h
      exact absurd hq (neg_neg_of_pos (mul_zpow_pos hn e)).asymm

theorem exists_unpack_powerOfTen {k : ℕ} (hk : k < Float.exactlyRepresentablePowersOfTen.size) :
    ∃ n e hn, Float.exactlyRepresentablePowersOfTen[k].toModel.unpack = .finite .positive n e hn ∧
      (n : ℚ) * 2 ^ e = 10 ^ k := by
  have hvalue := value_of_wholeOf? (wholeOf?_powerOfTen ⟨k, hk⟩)
  exact exists_unpack_of_value_pos (by exact_mod_cast hvalue) (by positivity)

/-! ## Decimals -/

theorem ofScientific_eq (hm : 0 < m) (left : Bool) (k : ℕ) :
    Float.ofScientific m left k =
      .ofModel (.pack (nearest .positive (m * 10 ^ (if left then -(k : ℤ) else k)))) := by
  unfold Float.ofScientific
  split
  · rename_i hexact
    obtain ⟨n, e, hn, hx, hbits, hvalue⟩ := exists_unpack_toFloat hm hexact.1
    obtain ⟨n', e', hn', hpower, hvalue'⟩ := exists_unpack_powerOfTen
      (k := k) (by simp [Float.exactlyRepresentablePowersOfTen]; omega)
    cases left with
    | true =>
      change Float.ofModel (.pack (UnpackedFloat.div .binary64 _ _)) = _
      rw [hx, hpower, div_eq, hvalue, hvalue', if_pos rfl, zpow_neg, zpow_natCast, div_eq_mul_inv]
    | false =>
      change Float.ofModel (.pack (UnpackedFloat.mul .binary64 _ _)) = _
      rw [hx, hpower, mul_eq hn hn' (hbits.trans (Nat.le_mul_of_pos_right n hn')), hvalue, hvalue',
        if_neg (by simp), zpow_natCast]
  · cases left with
    | true => exact congrArg Float.ofModel (model_ofScientific_eq hm _)
    | false => exact congrArg Float.ofModel (model_ofScientific_eq hm _)

end DesignLint.Rounding

namespace DesignLint.Number

open Float.Model Float.Model.UnpackedFloat FloatOrder Rounding

theorem ofDecimal_eq {digits : ℕ} (h : 0 < digits) (power : ℤ) :
    ofDecimal false digits power =
      .ofModel (.pack (Rounding.nearest .positive (digits * 10 ^ power))) := by
  have hpower : (if decide (power < 0) = true then -(power.natAbs : ℤ) else power.natAbs) = power := by
    rcases lt_or_ge power 0 with hlt | hge
    · rw [if_pos (decide_eq_true hlt)]
      omega
    · rw [if_neg (by simpa using hge)]
      omega
  rw [ofDecimal, ofScientific_eq h, hpower]
  rfl

/-- Decimals that stand for one number are read as one float. -/
theorem ofDecimal_congr {digits digits' : ℕ} {power power' : ℤ} (h : 0 < digits)
    (heq : (digits : ℚ) * 10 ^ power = digits' * 10 ^ power') :
    ofDecimal false digits power = ofDecimal false digits' power' := by
  have hpos : (0 : ℚ) < digits' * 10 ^ power' := heq ▸ decimal_pos h power
  rw [ofDecimal_eq h, ofDecimal_eq (pos_of_decimal_pos hpos), heq]

theorem unpack_ofDecimal_zero (power : ℤ) :
    (ofDecimal false 0 power).toModel.unpack = .zero .positive := by
  have hfloat : (0 : ℕ).toUInt64.toFloat.toModel.unpack = .zero .positive := rfl
  have hzero : (Float.Model.pack (.zero .positive)).unpack = .zero .positive := rfl
  change (Float.ofScientific 0 (decide (power < 0)) power.natAbs).toModel.unpack = _
  unfold Float.ofScientific
  split
  · rename_i hexact
    obtain ⟨n, f, hn, hpower, -⟩ := exists_unpack_powerOfTen
      (k := power.natAbs) (by simp [Float.exactlyRepresentablePowersOfTen]; omega)
    cases decide (power < 0) with
    | true =>
      change (Float.Model.pack (UnpackedFloat.div .binary64 _ _)).unpack = _
      rw [hfloat, hpower]
      exact hzero
    | false =>
      change (Float.Model.pack (UnpackedFloat.mul .binary64 _ _)).unpack = _
      rw [hfloat, hpower]
      exact hzero
  · cases decide (power < 0) <;> exact hzero

/-! ## The shortest decimal -/

namespace Decimal

def value (d : Decimal) : ℚ := d.digits * 10 ^ d.power

/-- The decimal has digits, and it is read back as what `x` is. -/
structure Spells (d : Decimal) (x : Float) : Prop where
  digits : 0 < d.digits
  unpack : d.toFloat.toModel.unpack = x.toModel.unpack

variable {d d' : Decimal} {x : Float} {m : ℕ} {e : ℤ} {hm : 0 < m}

theorem Spells.congr (h : Spells d x) (hvalue : d.value = d'.value) : Spells d' x where
  digits := by
    have hpos : 0 < d.value := decimal_pos h.digits d.power
    exact pos_of_decimal_pos (hvalue ▸ hpos)
  unpack := by
    rw [← h.unpack, toFloat, toFloat, ofDecimal_congr h.digits hvalue]

theorem spells_of_readsBack (hx : x.toModel.unpack = .finite .positive m e hm)
    (h : d.readsBack x = true) : Spells d x := by
  obtain rfl : d.toFloat = x := Packing.eq_of_toBits_eq (eq_of_beq h)
  refine ⟨Nat.pos_of_ne_zero fun hzero => ?_, rfl⟩
  rw [toFloat, hzero, unpack_ofDecimal_zero] at hx
  cases hx

theorem value_trim (fuel digits : ℕ) (power : ℤ) :
    (trim fuel digits power).value = digits * 10 ^ power := by
  induction fuel generalizing digits power with
  | zero => rfl
  | succ fuel ih =>
    rw [trim]
    split
    · rename_i hzero
      obtain ⟨n, rfl⟩ := Nat.dvd_of_mod_eq_zero hzero.2
      rw [ih, Nat.mul_div_cancel_left n (by norm_num), zpow_add_one₀ (by norm_num)]
      push_cast
      ring
    · rfl

theorem value_exactDecimal (m : ℕ) (e : ℤ) : (exactDecimal m e).value = m * 2 ^ e := by
  unfold exactDecimal
  split
  · rename_i he
    obtain ⟨n, rfl⟩ := Int.eq_ofNat_of_zero_le he
    simp [value]
  · rename_i he
    obtain ⟨n, rfl⟩ : ∃ n : ℕ, e = -n := ⟨(-e).toNat, by omega⟩
    have hten : (10 : ℚ) ^ n = 2 ^ n * 5 ^ n := by
      rw [← mul_pow]
      norm_num
    simp only [value, neg_neg, Int.toNat_natCast, zpow_neg, zpow_natCast, hten, Nat.pow_eq]
    push_cast
    field_simp

theorem spells_of_value_eq (hx : x.toModel.unpack = .finite .positive m e hm)
    (hvalue : d.value = m * 2 ^ e) : Spells d x := by
  obtain ⟨hcanonical, hle⟩ := Packing.fits_unpack x _ _ _ _ hx
  have hvaluePos : 0 < d.value := hvalue ▸ mul_zpow_pos hm e
  have hpos : 0 < d.digits := pos_of_decimal_pos hvaluePos
  refine ⟨hpos, ?_⟩
  rw [toFloat, ofDecimal_eq hpos, ← value, hvalue, nearest_of_canonical .positive hm hcanonical, hx]
  exact Packing.unpack_pack (Packing.fits_finite hcanonical hle)

/-- The digits that are written for a positive float are read back as the float. -/
theorem spells_shortest (hx : x.toModel.unpack = .finite .positive m e hm) :
    Spells (shortest x m e) x := by
  unfold shortest
  extract_lets value whole found d
  have hd : Spells d x := by
    -- Should no short decimal be found, the float is written out in full.
    rcases hfound : found with _ | d'
    · have hexact : d = exactDecimal m e := by simp [d, hfound]
      rw [hexact]
      exact spells_of_value_eq hx (value_exactDecimal m e)
    · have hexact : d = d' := by simp [d, hfound]
      rw [hexact]
      obtain ⟨n, -, hn⟩ := List.exists_of_findSome?_eq_some hfound
      have hread := List.find?_some hn
      exact spells_of_readsBack hx hread
  exact hd.congr (value_trim _ _ _).symm

end Decimal

end DesignLint.Number
