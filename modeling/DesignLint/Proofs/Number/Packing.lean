import DesignLint.Proofs.Number.FloatValue

/-! # Bits of floats -/

namespace DesignLint.Packing

open Float.Model Float.Model.UnpackedFloat FloatOrder

variable {u : UnpackedFloat} {x y : Float} {s : Sign} {m : ℕ} {e : ℤ}

/-! ## Parts of the bits -/

theorem unpackSign_packComponents {spec : Format} {sign exponent mantissa} :
    unpackSign (packComponents spec sign exponent mantissa) = sign.toBitVec := by
  apply BitVec.eq_of_getLsbD_eq
  intro i hi
  obtain rfl : i = 0 := by omega
  delta unpackSign
  simp [packComponents, BitVec.getLsbD_append, BitVec.getElem_append]

theorem ofBitVec_toBitVec (s : Sign) : Sign.ofBitVec s.toBitVec = s := by cases s <;> rfl

theorem unpack_packedInfinity (s : Sign) :
    UnpackedFloat.unpack .binary64 (packedInfinity .binary64 s) = .infinity s := by
  cases s <;> rfl

theorem unpack_packedZero (s : Sign) :
    UnpackedFloat.unpack .binary64 (packedZero .binary64 s) = .zero s := by
  cases s <;> rfl

theorem unpack_packedNaN :
    UnpackedFloat.unpack .binary64 (packedNaN .binary64) = .notANumber := rfl

theorem unpack_packComponents_of_full {k : ℕ} (hk : 0 < k) (hk' : k < 2047) (hm : 2 ^ 52 ≤ m)
    (hm' : m < 2 ^ 53) (h : 0 < m) :
    UnpackedFloat.unpack .binary64 (packComponents .binary64 s (BitVec.ofNat 11 k)
      (BitVec.ofNat 52 m)) = .finite s m (k - 1075) h := by
  have hexponent : (BitVec.ofNat 11 k).toNat = k := by
    rw [BitVec.toNat_ofNat]
    omega
  have hleast : BitVec.ofNat 11 k ≠ 0#_ := by
    intro hzero
    rw [hzero] at hexponent
    simp at hexponent
    omega
  have hgreatest : BitVec.ofNat 11 k ≠ -1#_ := by
    intro hones
    rw [hones] at hexponent
    simp at hexponent
    omega
  have hmantissa : (1#1 ++ BitVec.ofNat 52 m).toNat = m := by
    rw [toNat_append_one, BitVec.toNat_ofNat]
    omega
  unfold UnpackedFloat.unpack
  dsimp only
  rw [unpackExponent_packComponents, if_neg hgreatest, if_neg hleast]
  refine finite_congr ?_ ?_ ?_
  · rw [unpackSign_packComponents, ofBitVec_toBitVec]
  · rw [unpackMantissa_packComponents, hmantissa]
  · rw [hexponent]
    rfl

theorem unpack_packComponents_of_least (hm : m < 2 ^ 52) (h : 0 < m) :
    UnpackedFloat.unpack .binary64 (packComponents .binary64 s 0#11 (BitVec.ofNat 52 m)) =
      .finite s m (-1074) h := by
  have hmantissa : (BitVec.ofNat 52 m).toNat = m := by
    rw [BitVec.toNat_ofNat]
    omega
  have hnonzero : BitVec.ofNat 52 m ≠ 0#_ := by
    intro hzero
    rw [hzero] at hmantissa
    simp at hmantissa
    omega
  unfold UnpackedFloat.unpack
  dsimp only
  rw [unpackExponent_packComponents, if_neg (by decide), if_pos rfl,
    dif_neg (by rwa [unpackMantissa_packComponents])]
  refine finite_congr ?_ ?_ rfl
  · rw [unpackSign_packComponents, ofBitVec_toBitVec]
  · rw [unpackMantissa_packComponents, hmantissa]

/-! ## Packing and unpacking -/

/-- A float of this shape has bits of its own. -/
def Fits (u : UnpackedFloat) : Prop :=
  ∀ s m e hm, u = .finite s m e hm → Canonical m e ∧ e ≤ 971

theorem fits_finite (h : Canonical m e) (he : e ≤ 971) {hm : 0 < m} : Fits (.finite s m e hm) := by
  rintro s' m' e' hm' ⟨⟩
  exact ⟨h, he⟩

theorem unpack_pack (h : Fits u) : (Float.Model.pack u).unpack = u := by
  change UnpackedFloat.unpack .binary64 (UnpackedFloat.pack .binary64 u) = u
  cases u with
  | notANumber => exact unpack_packedNaN
  | infinity s => exact unpack_packedInfinity s
  | zero s => exact unpack_packedZero s
  | finite s m e hm =>
    obtain ⟨hcanonical, hle⟩ := h s m e hm rfl
    have hfits := hcanonical.mantissa
    have hleast := hcanonical.exponent
    obtain ⟨k, hk⟩ : ∃ k : ℕ, e + 1023 + 52 = k := ⟨(e + 1023 + 52).toNat, by omega⟩
    have hpack : UnpackedFloat.pack .binary64 (.finite s m e hm) =
        if 2048 ≤ (e + 1023 + 52).toNat + 1 then packedInfinity .binary64 s
        else if m.log2 + 1 = 53 then
          packComponents .binary64 s (BitVec.ofNat 11 (e + 1023 + 52).toNat) (BitVec.ofNat 52 m)
        else packComponents .binary64 s 0#11 (BitVec.ofNat 52 m) := rfl
    rw [hpack, hk, Int.toNat_natCast, if_neg (by omega)]
    by_cases hfull : 2 ^ 52 ≤ m
    · have hlog : m.log2 = 52 := by
        have hge := (Nat.le_log2 hm.ne').mpr hfull
        have hlt := (Nat.log2_lt hm.ne').mpr hfits
        omega
      obtain rfl : e = k - 1075 := by omega
      rw [if_pos (by omega), unpack_packComponents_of_full (by omega) (by omega) hfull hfits hm]
    · have hlog : m.log2 < 52 := (Nat.log2_lt hm.ne').mpr (by omega)
      obtain rfl : e = -1074 := hcanonical.full.resolve_left hfull
      rw [if_neg (by omega), unpack_packComponents_of_least (by omega) hm]

theorem fits_unpack (x : Float) : Fits x.toModel.unpack := fun _ _ _ _ h =>
  ⟨canonical_of_unpack h, exponent_le_of_unpack h⟩

/-! ## Floats that are the same -/

theorem eq_of_toBits_eq (h : x.toBits = y.toBits) : x = y := by
  obtain ⟨⟨bits, valid⟩⟩ := x
  obtain ⟨⟨bits', valid'⟩⟩ := y
  change bits = bits' at h
  subst h
  rfl

/-- The negative of a float is the negative of what it is. -/
theorem unpack_neg (x : Float) : (-x).toModel.unpack = x.toModel.unpack.neg := by
  change (Float.Model.pack x.toModel.unpack.neg).unpack = _
  refine unpack_pack ?_
  intro s m e hm h
  cases hx : x.toModel.unpack with
  | notANumber => rw [hx] at h; cases h
  | infinity s => rw [hx] at h; cases h
  | zero s => rw [hx] at h; cases h
  | finite s' m' e' hm' =>
    rw [hx] at h
    cases h
    exact fits_unpack x _ _ _ _ hx

end DesignLint.Packing
