import DesignLint.Proofs.Number.FloatValue
import Mathlib.Data.Int.Log
import Mathlib.Data.Rat.Floor

/-!
# Rounding to floats

Of the bits taken off a mantissa it is kept whether the last one was set and whether any other was.
So the float that a number is rounded to depends on the number alone.
-/

namespace DesignLint.Rounding

open Float.Model Float.Model.UnpackedFloat FloatOrder

/-! ## Mantissas with bits behind them -/

def halves (em : ExtendedMantissa) : ℕ := 2 * em.mantissa + em.roundBit.toNat

/-- A mantissa with bits behind it tells a number: the number in halves, and whether there is a rest. -/
def Tells (em : ExtendedMantissa) (t : ℚ) : Prop :=
  ∃ rest : ℚ, 0 ≤ rest ∧ rest < 1 ∧ 2 * t = halves em + rest ∧ (em.stickyBit = true ↔ 0 < rest)

variable {em em' : ExtendedMantissa} {t : ℚ}

theorem eq_of_tells (h : Tells em t) (h' : Tells em' t) : em = em' := by
  obtain ⟨m, b, s⟩ := em
  obtain ⟨m', b', s'⟩ := em'
  obtain ⟨rest, hnonneg, hlt, heq, hs⟩ := h
  obtain ⟨rest', hnonneg', hlt', heq', hs'⟩ := h'
  have hle : halves ⟨m, b, s⟩ < halves ⟨m', b', s'⟩ + 1 := by
    have : (halves ⟨m, b, s⟩ : ℚ) < halves ⟨m', b', s'⟩ + 1 := by linarith
    exact_mod_cast this
  have hge : halves ⟨m', b', s'⟩ < halves ⟨m, b, s⟩ + 1 := by
    have : (halves ⟨m', b', s'⟩ : ℚ) < halves ⟨m, b, s⟩ + 1 := by linarith
    exact_mod_cast this
  have hhalves : halves ⟨m, b, s⟩ = halves ⟨m', b', s'⟩ := by omega
  obtain rfl : rest = rest' := by
    rw [hhalves] at heq
    linarith
  obtain rfl : s = s' := Bool.eq_iff_iff.mpr (hs.trans hs'.symm)
  have hbits := b.toNat_le
  have hbits' := b'.toNat_le
  simp only [halves] at hhalves
  obtain rfl : m = m' := by omega
  obtain rfl : b = b' := by
    cases b <;> cases b' <;> first | rfl | simp at hhalves
  rfl

theorem tells_shiftRightOne (h : Tells em t) : Tells em.shiftRightOne (t / 2) := by
  obtain ⟨m, b, s⟩ := em
  obtain ⟨rest, hnonneg, hlt, heq, hs⟩ := h
  have hbit : (b.toNat : ℚ) ≤ 1 := by exact_mod_cast b.toNat_le
  have hsplit : (m : ℚ) = 2 * (m / 2 : ℕ) + (m % 2 != 0).toNat := by
    have hmod : (m % 2 != 0).toNat = m % 2 := by
      rcases Nat.mod_two_eq_zero_or_one m with h | h <;> rw [h] <;> rfl
    rw [hmod]
    exact_mod_cast (Nat.div_add_mod m 2).symm
  refine ⟨(b.toNat + rest) / 2, by positivity, by linarith, ?_, ?_⟩
  · simp only [halves, ExtendedMantissa.shiftRightOne] at heq ⊢
    push_cast at heq ⊢
    linarith
  · simp only [ExtendedMantissa.shiftRightOne, Bool.or_eq_true, hs]
    cases b with
    | false => simp
    | true =>
      simp only [true_or, Bool.toNat_true, true_iff]
      push_cast
      linarith

theorem tells_shiftRight (h : Tells em t) (n : ℕ) : Tells (em >>> n) (t / 2 ^ n) := by
  change Tells (n.repeat ExtendedMantissa.shiftRightOne em) _
  induction n with
  | zero =>
    rw [pow_zero, div_one]
    exact h
  | succ n ih =>
    rw [pow_succ, ← div_div]
    exact tells_shiftRightOne ih

theorem tells_fraction (m : ℕ) {num den : ℕ} (h : num < den) :
    Tells (.ofMantissaAndAccuracy m (accuracyOfFraction num den)) (m + num / den) := by
  have hden : (0 : ℚ) < den := by exact_mod_cast Nat.zero_lt_of_lt h
  have hlt : (num : ℚ) < den := by exact_mod_cast h
  unfold accuracyOfFraction
  split
  · rename_i hzero
    subst hzero
    exact ⟨0, le_rfl, one_pos, by simp [halves, ExtendedMantissa.ofMantissaAndAccuracy], by
      simp [ExtendedMantissa.ofMantissaAndAccuracy]⟩
  · rename_i hpos
    have hpos : (0 : ℚ) < num := by exact_mod_cast Nat.pos_of_ne_zero hpos
    rcases lt_trichotomy (2 * num) den with hcmp | hcmp | hcmp
    · rw [Nat.compare_eq_lt.mpr hcmp]
      have hcmp : (2 * num : ℚ) < den := by exact_mod_cast hcmp
      refine ⟨2 * num / den, by positivity, by rwa [div_lt_one hden], ?_, ?_⟩
      · simp only [halves, ExtendedMantissa.ofMantissaAndAccuracy, Bool.toNat_false]
        push_cast
        ring
      · simp only [ExtendedMantissa.ofMantissaAndAccuracy, true_iff]
        positivity
    · rw [Nat.compare_eq_eq.mpr hcmp]
      have hcmp : (2 * num : ℚ) = den := by exact_mod_cast hcmp
      refine ⟨0, le_rfl, one_pos, ?_, by simp [ExtendedMantissa.ofMantissaAndAccuracy]⟩
      simp only [halves, ExtendedMantissa.ofMantissaAndAccuracy, Bool.toNat_true]
      push_cast
      rw [← hcmp]
      field_simp
      ring
    · rw [Nat.compare_eq_gt.mpr hcmp]
      have hcmp : (den : ℚ) < 2 * num := by exact_mod_cast hcmp
      have hone : 1 < 2 * (num : ℚ) / den := by rwa [one_lt_div hden]
      have htwo : 2 * (num : ℚ) / den < 2 := by
        rw [div_lt_iff₀ hden]
        linarith
      refine ⟨2 * num / den - 1, by linarith, by linarith, ?_, ?_⟩
      · simp only [halves, ExtendedMantissa.ofMantissaAndAccuracy, Bool.toNat_true]
        push_cast
        ring
      · simp only [ExtendedMantissa.ofMantissaAndAccuracy, true_iff]
        linarith

theorem tells_exact (m : ℕ) : Tells (.ofMantissaAndAccuracy m .exact) m := by
  simpa [accuracyOfFraction] using tells_fraction m (show 0 < 1 from Nat.one_pos)

def telling (t : ℚ) : ExtendedMantissa where
  mantissa := ⌊2 * t⌋₊ / 2
  roundBit := ⌊2 * t⌋₊ % 2 = 1
  stickyBit := (⌊2 * t⌋₊ : ℚ) < 2 * t

theorem tells_telling (ht : 0 ≤ t) : Tells (telling t) t := by
  have hfloor : (⌊2 * t⌋₊ : ℚ) ≤ 2 * t := Nat.floor_le (by positivity)
  have hhalves : halves (telling t) = ⌊2 * t⌋₊ := by
    have hbit : (telling t).roundBit.toNat = ⌊2 * t⌋₊ % 2 := by
      rw [telling]
      rcases Nat.mod_two_eq_zero_or_one ⌊2 * t⌋₊ with h | h <;> simp [h]
    rw [halves, hbit]
    exact Nat.div_add_mod _ 2
  refine ⟨2 * t - ⌊2 * t⌋₊, by linarith, ?_, ?_, ?_⟩
  · exact sub_left_lt_of_lt_add (Nat.lt_floor_add_one _)
  · rw [hhalves]
    ring
  · simp [telling]

theorem mantissa_of_tells (h : Tells em t) : (em.mantissa : ℚ) ≤ t ∧ t < em.mantissa + 1 := by
  obtain ⟨rest, hnonneg, hlt, heq, -⟩ := h
  have hbit : (em.roundBit.toNat : ℚ) ≤ 1 := by exact_mod_cast em.roundBit.toNat_le
  have hbit' : (0 : ℚ) ≤ em.roundBit.toNat := by positivity
  simp only [halves] at heq
  push_cast at heq
  constructor <;> linarith

/-! ## The grid -/

/-- The exponent of the floats around a number. -/
def grid (q : ℚ) : ℤ := max (Int.log 2 q - 52) (-1074)

variable {q : ℚ} {m : ℕ} {e : ℤ} {acc : Accuracy}

/-- Below the place of its first bit a mantissa has 53 bits, but none below the least exponent. -/
theorem targetExponent_eq_max (t : ℤ) : Format.binary64.targetExponent t = max (t - 53) (-1074) := rfl

theorem mul_zpow_div_zpow (m : ℕ) (e : ℤ) : (m : ℚ) * 2 ^ e / 2 ^ e = m :=
  mul_div_cancel_right₀ _ (by positivity)

theorem tells_mul_zpow (m : ℕ) (e : ℤ) :
    Tells (.ofMantissaAndAccuracy m .exact) ((m : ℚ) * 2 ^ e / 2 ^ e) := by
  rw [mul_zpow_div_zpow]
  exact tells_exact m

theorem log_eq (hm : 0 < m) (hle : (m : ℚ) ≤ q / 2 ^ e) (hlt : q / 2 ^ e < m + 1) :
    Int.log 2 q = m.log2 + e := by
  have htwo : (0 : ℚ) < 2 ^ e := by positivity
  rw [le_div_iff₀ htwo] at hle
  rw [div_lt_iff₀ htwo] at hlt
  have hq : 0 < q := lt_of_lt_of_le (by positivity) hle
  have hlow : ((2 : ℕ) : ℚ) ^ ((m.log2 : ℤ) + e) ≤ q := by
    refine le_trans ?_ hle
    rw [zpow_add₀ (by norm_num), zpow_natCast]
    push_cast
    gcongr
    exact_mod_cast Nat.log2_self_le hm.ne'
  have hhigh : q < ((2 : ℕ) : ℚ) ^ ((m.log2 : ℤ) + e + 1) := by
    refine lt_of_lt_of_le hlt ?_
    have hpow : m + 1 ≤ 2 ^ (m.log2 + 1) := Nat.lt_log2_self
    rw [add_right_comm, zpow_add₀ (by norm_num)]
    push_cast
    gcongr
    exact_mod_cast hpow
  have hge := (Int.zpow_le_iff_le_log one_lt_two hq).mp hlow
  have hle := (Int.lt_zpow_iff_log_lt one_lt_two hq).mp hhigh
  omega

theorem targetExponent_eq (hq : 0 < q) (hle : (m : ℚ) ≤ q / 2 ^ e) (hlt : q / 2 ^ e < m + 1)
    (he : e ≤ grid q) : Format.binary64.targetExponent (totalExponent m e) = grid q := by
  rw [targetExponent_eq_max, totalExponent]
  rcases Nat.eq_zero_or_pos m with rfl | hm
  · -- Nothing is left of the number, so it is below the least float.
    have htwo : (0 : ℚ) < 2 ^ e := by positivity
    have hsmall : q < ((2 : ℕ) : ℚ) ^ e := by
      rw [div_lt_iff₀ htwo] at hlt
      simpa using hlt
    have hlog := (Int.lt_zpow_iff_log_lt one_lt_two hq).mp hsmall
    unfold grid at he ⊢
    have hzero : Nat.log2 0 = 0 := rfl
    rw [hzero]
    omega
  · rw [grid, log_eq hm hle hlt]
    omega

theorem shiftToTargetExponent_eq (hq : 0 < q)
    (h : Tells (.ofMantissaAndAccuracy m acc) (q / 2 ^ e)) (he : e ≤ grid q)
    (hem : Tells em (q / 2 ^ grid q)) :
    shiftToTargetExponent .binary64 m e acc = (em, grid q) := by
  have hmantissa : (ExtendedMantissa.ofMantissaAndAccuracy m acc).mantissa = m := by
    rcases acc with _ | (_ | _ | _) <;> rfl
  obtain ⟨hle, hlt⟩ := mantissa_of_tells h
  rw [hmantissa] at hle hlt
  obtain ⟨n, hn⟩ : ∃ n : ℕ, grid q = e + n := ⟨(grid q - e).toNat, by omega⟩
  have hshift : (grid q - e).toNat = n := by omega
  have htells := tells_shiftRight h n
  rw [div_div, ← zpow_natCast, ← zpow_add₀ (by norm_num), ← hn] at htells
  rw [shiftToTargetExponent, targetExponent_eq hq hle hlt he, shiftToExponent]
  simp only [hshift]
  rw [eq_of_tells htells hem, ← hn]

/-! ## The nearest float -/

def settle (s : Sign) (p : ExtendedMantissa × ℤ) : UnpackedFloat :=
  let final := shiftToTargetExponent .binary64 p.1.roundedMantissa p.2 .exact
  if h : final.1.mantissa = 0 then .zero s
  else .finite s final.1.mantissa final.2 (Nat.pos_of_ne_zero h)

theorem settle_eq_finite (s : Sign) {p q : ExtendedMantissa × ℤ}
    (h : shiftToTargetExponent .binary64 p.1.roundedMantissa p.2 .exact = q)
    (hmantissa : q.1.mantissa = m) (hm : 0 < m) : settle s p = .finite s m q.2 hm := by
  have hne : (shiftToTargetExponent .binary64 p.1.roundedMantissa p.2 .exact).1.mantissa ≠ 0 := by
    rw [h, hmantissa]
    exact hm.ne'
  rw [settle, dif_neg hne]
  exact finite_congr rfl (by rw [h, hmantissa]) (by rw [h])

theorem roundWithAccuracy_eq_settle (s : Sign) (m : ℕ) (e : ℤ) (acc : Accuracy) :
    roundWithAccuracy .binary64 s m e acc =
      settle s (shiftToTargetExponent .binary64 m e acc) := rfl

/-- The float that a positive number is rounded to, with a sign. It may be too great for the format. -/
def nearest (s : Sign) (q : ℚ) : UnpackedFloat := settle s (telling (q / 2 ^ grid q), grid q)

theorem roundWithAccuracy_eq (s : Sign) (hq : 0 < q)
    (h : Tells (.ofMantissaAndAccuracy m acc) (q / 2 ^ e)) (he : e ≤ grid q) :
    roundWithAccuracy .binary64 s m e acc = nearest s q := by
  rw [roundWithAccuracy_eq_settle, nearest,
    shiftToTargetExponent_eq hq h he (tells_telling (by positivity))]

theorem roundWithAccuracy_exact (s : Sign) (hm : 0 < m) (he : e ≤ grid (m * 2 ^ e)) :
    roundWithAccuracy .binary64 s m e .exact = nearest s (m * 2 ^ e) := by
  exact roundWithAccuracy_eq s (mul_zpow_pos hm e) (tells_mul_zpow m e) he

theorem log_mul_zpow (hm : 0 < m) (e : ℤ) : Int.log 2 ((m : ℚ) * 2 ^ e) = m.log2 + e := by
  refine log_eq hm ?_ ?_ <;> rw [mul_zpow_div_zpow]
  exact lt_add_one _

/-- A number that is a float is rounded to it. -/
theorem nearest_of_canonical (s : Sign) (hm : 0 < m) (h : Canonical m e) :
    nearest s (m * 2 ^ e) = .finite s m e hm := by
  have hlog : m.log2 < 53 := (Nat.log2_lt hm.ne').mpr h.mantissa
  have hgrid : grid (m * 2 ^ e) = e := by
    rw [grid, log_mul_zpow hm]
    rcases h.full with hfull | hleast
    · have hlog' : 52 ≤ m.log2 := (Nat.le_log2 hm.ne').mpr hfull
      have hexponent := h.exponent
      omega
    · omega
  have htells := tells_mul_zpow m e
  have hshift : shiftToTargetExponent .binary64 m e .exact = (.ofMantissaAndAccuracy m .exact, e) := by
    have hsame : Tells (.ofMantissaAndAccuracy m .exact) ((m : ℚ) * 2 ^ e / 2 ^ grid (m * 2 ^ e)) := by
      rwa [hgrid]
    have hshift := shiftToTargetExponent_eq (mul_zpow_pos hm e) htells hgrid.ge hsame
    rwa [hgrid] at hshift
  rw [← roundWithAccuracy_exact s hm hgrid.ge, roundWithAccuracy_eq_settle, hshift]
  have hrounded : (ExtendedMantissa.ofMantissaAndAccuracy m .exact).roundedMantissa = m := rfl
  refine settle_eq_finite s (q := (.ofMantissaAndAccuracy m .exact, e)) ?_ rfl hm
  dsimp only
  rw [hrounded, hshift]

/-! ## Operations -/

variable {n : ℕ} {f : ℤ}

theorem round_eq (s : Sign) (hm : 0 < m) (e : ℤ) :
    UnpackedFloat.round .binary64 s m e = nearest s (m * 2 ^ e) := by
  have htarget : Format.binary64.targetExponent (totalExponent m e) = grid (m * 2 ^ e) := by
    rw [targetExponent_eq_max, totalExponent, grid, log_mul_zpow hm]
    omega
  obtain ⟨k, hk⟩ : ∃ k, k = (e - grid (m * 2 ^ e)).toNat := ⟨_, rfl⟩
  have hvalue : ((m <<< k : ℕ) : ℚ) * 2 ^ (e - k) = m * 2 ^ e := by
    rw [Nat.shiftLeft_eq, zpow_sub₀ two_ne_zero, zpow_natCast]
    push_cast
    field_simp
  have hpos : 0 < m <<< k := by
    rw [Nat.shiftLeft_eq]
    positivity
  simp only [UnpackedFloat.round, htarget, decreaseExponent, ← hk]
  rw [roundWithAccuracy_exact s hpos (by rw [hvalue]; omega), hvalue]

theorem mul_eq (hm : 0 < m) (hn : 0 < n) (hbits : 2 ^ 52 ≤ m * n) :
    UnpackedFloat.mul .binary64 (.finite .positive m e hm) (.finite .positive n f hn) =
      nearest .positive (m * 2 ^ e * (n * 2 ^ f)) := by
  have hpos : 0 < m * n := Nat.mul_pos hm hn
  have hvalue : ((m * n : ℕ) : ℚ) * 2 ^ (e + f) = m * 2 ^ e * (n * 2 ^ f) := by
    rw [zpow_add₀ two_ne_zero]
    push_cast
    ring
  have hgrid : e + f ≤ grid ((m * n : ℕ) * 2 ^ (e + f)) := by
    have hlog : 52 ≤ (m * n).log2 := (Nat.le_log2 hpos.ne').mpr hbits
    rw [grid, log_mul_zpow hpos]
    omega
  rw [← hvalue, ← roundWithAccuracy_exact .positive hpos hgrid]
  rfl

theorem log_div_ge (hm : 0 < m) (hn : 0 < n) :
    (m.log2 + e) - (n.log2 + f) - 1 ≤ Int.log 2 ((m : ℚ) * 2 ^ e / (n * 2 ^ f)) := by
  have hdivisor : (0 : ℚ) < n * 2 ^ f := mul_zpow_pos hn f
  have hm' : ((2 : ℚ) ^ m.log2) ≤ m := by exact_mod_cast Nat.log2_self_le hm.ne'
  have hn' : (n : ℚ) ≤ 2 ^ (n.log2 + 1) := by exact_mod_cast (Nat.lt_log2_self (n := n)).le
  refine (Int.zpow_le_iff_le_log one_lt_two (div_pos (mul_zpow_pos hm e) hdivisor)).mp ?_
  rw [le_div_iff₀ hdivisor]
  calc ((2 : ℕ) : ℚ) ^ ((m.log2 : ℤ) + e - (n.log2 + f) - 1) * (n * 2 ^ f)
      ≤ ((2 : ℕ) : ℚ) ^ ((m.log2 : ℤ) + e - (n.log2 + f) - 1) * (2 ^ (n.log2 + 1) * 2 ^ f) := by
        gcongr
    _ = 2 ^ m.log2 * 2 ^ e := by
        rw [← zpow_natCast, ← zpow_natCast, Nat.cast_ofNat, ← zpow_add₀ two_ne_zero,
          ← zpow_add₀ two_ne_zero, ← zpow_add₀ two_ne_zero]
        congr 1
        push_cast
        ring
    _ ≤ m * 2 ^ e := by gcongr

theorem div_eq (hm : 0 < m) (hn : 0 < n) :
    UnpackedFloat.div .binary64 (.finite .positive m e hm) (.finite .positive n f hn) =
      nearest .positive (m * 2 ^ e / (n * 2 ^ f)) := by
  have hdivisor : (0 : ℚ) < n * 2 ^ f := mul_zpow_pos hn f
  have hq : (0 : ℚ) < m * 2 ^ e / (n * 2 ^ f) := div_pos (mul_zpow_pos hm e) hdivisor
  obtain ⟨t, ht⟩ : ∃ t, t = min (e - f)
    (Format.binary64.targetExponent (totalExponent m e - totalExponent n f)) := ⟨_, rfl⟩
  have hgrid : t ≤ grid (m * 2 ^ e / (n * 2 ^ f)) := by
    have hlog := log_div_ge (e := e) (f := f) hm hn
    rw [targetExponent_eq_max, totalExponent, totalExponent] at ht
    rw [grid]
    omega
  obtain ⟨k, hk⟩ : ∃ k : ℕ, e - f - t = k := ⟨(e - f - t).toNat, by omega⟩
  have hcore : divCore .binary64 m e n f =
      ((m <<< k) / n, t, accuracyOfFraction ((m <<< k) % n) n) := by
    have hshift : (e - f - t).toNat = k := by omega
    simp only [divCore, ← ht, hshift]
  have hround : UnpackedFloat.div .binary64 (.finite .positive m e hm) (.finite .positive n f hn) =
      roundWithAccuracy .binary64 .positive (divCore .binary64 m e n f).1
        (divCore .binary64 m e n f).2.1 (divCore .binary64 m e n f).2.2 := rfl
  rw [hround, hcore]
  refine roundWithAccuracy_eq .positive hq ?_ hgrid
  have htells := tells_fraction ((m <<< k) / n) (Nat.mod_lt (m <<< k) hn)
  have hvalue : (((m <<< k) / n : ℕ) : ℚ) + ((m <<< k) % n : ℕ) / n =
      m * 2 ^ e / (n * 2 ^ f) / 2 ^ t := by
    have hne : (n : ℚ) ≠ 0 := by exact_mod_cast hn.ne'
    have hsplit : (((m <<< k) / n : ℕ) : ℚ) * n + ((m <<< k) % n : ℕ) = m * 2 ^ k := by
      rw [← Nat.cast_ofNat (R := ℚ), ← Nat.cast_pow, ← Nat.cast_mul, ← Nat.cast_mul, ← Nat.cast_add,
        Nat.div_add_mod', Nat.shiftLeft_eq]
    have hexponent : (2 : ℚ) ^ e = 2 ^ k * 2 ^ t * 2 ^ f := by
      rw [← zpow_natCast, ← zpow_add₀ two_ne_zero, ← zpow_add₀ two_ne_zero]
      congr 1
      omega
    rw [hexponent]
    field_simp
    linarith
  rwa [hvalue] at htells

/-! ## Too great and too small numbers -/

theorem mantissa_le_roundedMantissa (em : ExtendedMantissa) : em.mantissa ≤ em.roundedMantissa := by
  obtain ⟨m, b, s⟩ := em
  cases b <;> cases s <;>
    simp [ExtendedMantissa.roundedMantissa, ExtendedMantissa.accuracy, Accuracy.roundToNearestEven]

theorem exists_settle (s : Sign) {p : ExtendedMantissa × ℤ} (hp : 0 < p.1.mantissa)
    (he : -1074 ≤ p.2) : ∃ m e hm, settle s p = .finite s m e hm ∧ p.2 ≤ e := by
  have hpos : 0 < p.1.roundedMantissa := hp.trans_le (mantissa_le_roundedMantissa p.1)
  obtain ⟨n, hn⟩ : ∃ n, n = (Format.binary64.targetExponent
    (totalExponent p.1.roundedMantissa p.2) - p.2).toNat := ⟨_, rfl⟩
  have hbits : n ≤ p.1.roundedMantissa.log2 := by
    rw [targetExponent_eq_max, totalExponent] at hn
    omega
  have hshift : shiftToTargetExponent .binary64 p.1.roundedMantissa p.2 .exact =
      (ExtendedMantissa.ofMantissaAndAccuracy p.1.roundedMantissa .exact >>> n, p.2 + n) := by
    rw [hn]
    rfl
  have hleft :
      (ExtendedMantissa.ofMantissaAndAccuracy p.1.roundedMantissa .exact >>> n).mantissa ≠ 0 := by
    intro hzero
    have hlt := (mantissa_of_tells (tells_shiftRight (tells_exact p.1.roundedMantissa) n)).2
    rw [hzero, Nat.cast_zero, zero_add, div_lt_one (by positivity)] at hlt
    have hlt : p.1.roundedMantissa < 2 ^ n := by exact_mod_cast hlt
    exact absurd (hlt.trans_le (Nat.pow_le_pow_right two_pos hbits))
      (Nat.log2_self_le hpos.ne').not_gt
  exact ⟨_, _, Nat.pos_of_ne_zero hleft, settle_eq_finite s hshift rfl _, by omega⟩

theorem pack_nearest_of_great (s : Sign) (hq : 0 < q) (hlog : 1024 ≤ Int.log 2 q) :
    UnpackedFloat.pack .binary64 (nearest s q) = packedInfinity .binary64 s := by
  have hgrid : grid q = Int.log 2 q - 52 := by
    rw [grid]
    omega
  have hone : 1 ≤ q / 2 ^ grid q := by
    rw [le_div_iff₀ (by positivity), one_mul]
    have hle := (Int.zpow_le_iff_le_log one_lt_two hq).mpr (show grid q ≤ Int.log 2 q by omega)
    exact_mod_cast hle
  have hpos : 0 < (telling (q / 2 ^ grid q)).mantissa := by
    have hlt := (mantissa_of_tells (tells_telling (by positivity))).2.trans_le' hone
    have hlt : 1 < (telling (q / 2 ^ grid q)).mantissa + 1 := by exact_mod_cast hlt
    omega
  obtain ⟨m, e, hm, hsettle, he⟩ :=
    exists_settle s (p := (telling (q / 2 ^ grid q), grid q)) hpos (by omega)
  rw [nearest, hsettle]
  refine if_pos ?_
  change 2048 ≤ (e + 1023 + 52).toNat + 1
  omega

theorem nearest_of_small (s : Sign) (hq : 0 < q) (hlog : Int.log 2 q ≤ -1076) :
    nearest s q = .zero s := by
  have hgrid : grid q = -1074 := by
    rw [grid]
    omega
  have hhalf : 2 * (q / 2 ^ (-1074 : ℤ)) < 1 := by
    have hlt := (Int.lt_zpow_iff_log_lt one_lt_two hq).mpr (show Int.log 2 q < -1075 by omega)
    have hlt : q < 2 ^ (-1075 : ℤ) := by exact_mod_cast hlt
    rw [← mul_div_assoc, div_lt_one (by positivity), ← lt_div_iff₀' two_pos]
    refine hlt.trans_le (le_of_eq ?_)
    rw [eq_div_iff two_ne_zero, ← zpow_add_one₀ two_ne_zero]
    norm_num
  have hfloor : ⌊2 * (q / 2 ^ (-1074 : ℤ))⌋₊ = 0 := Nat.floor_eq_zero.mpr hhalf
  rw [nearest, hgrid, telling, hfloor]
  cases hcmp : decide (((0 : ℕ) : ℚ) < 2 * (q / 2 ^ (-1074 : ℤ))) <;> rfl

end DesignLint.Rounding
