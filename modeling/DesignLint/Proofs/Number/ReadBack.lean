import DesignLint.Proofs.Number.Spelling
import Mathlib.Tactic.FinCases

/-! # Measures that are read back -/

namespace DesignLint.Number

open Float.Model.UnpackedFloat FloatOrder

/-! ## Characters of numbers -/

variable {c : Char} {l : List Char}

theorem toNat_of_isNumeral (h : isNumeral c = true) :
    (43 ≤ c.toNat ∧ c.toNat ≤ 57) ∨ (101 ≤ c.toNat ∧ c.toNat ≤ 110) := by
  rw [isNumeral, Bool.or_eq_true] at h
  rcases h with h | h
  · have hbounds : 48 ≤ c.toNat ∧ c.toNat ≤ 57 := by
      simpa [Char.isDigit, UInt32.le_iff_toNat_le] using h
    omega
  · simp only [String.reduceToList, List.contains_iff_mem, List.mem_cons, List.not_mem_nil,
      or_false] at h
    rcases h with rfl | rfl | rfl | rfl | rfl | rfl | rfl <;> decide

theorem asciiForm_of_isNumeral (h : isNumeral c = true) : asciiForm c = c := by
  have := toNat_of_isNumeral h
  rw [asciiForm, if_pos (by omega)]

theorem isAsciiBlank_of_isNumeral (h : isNumeral c = true) : isAsciiBlank c = false := by
  have hc := toNat_of_isNumeral h
  rw [isAsciiBlank, Bool.or_eq_false_iff]
  refine ⟨decide_eq_false ?_, by simp; omega⟩
  rintro rfl
  exact absurd hc (by decide)

theorem trimBy_eq_self {p : Char → Bool} (h : ∀ c ∈ l, p c = false) : Text.trimBy p l = l := by
  have hdrop : ∀ l : List Char, (∀ c ∈ l, p c = false) → l.dropWhile p = l := by
    intro l h
    cases l with
    | nil => rfl
    | cons c rest => simp [h c List.mem_cons_self]
  rw [Text.trimBy, hdrop l h, hdrop _ (by simpa using h), List.reverse_reverse]

theorem joinDigits?_eq_self {before : Option Char} (hbefore : before ≠ some '_') (h : '_' ∉ l) :
    joinDigits? before l = some l := by
  induction l generalizing before with
  | nil => simp [joinDigits?, hbefore]
  | cons c rest ih =>
    rw [List.mem_cons, not_or] at h
    have hc : some c ≠ some '_' := fun heq => h.1 (Option.some.inj heq).symm
    simp [joinDigits?, Ne.symm h.1, hbefore, ih hc h.2]

theorem parseFloat?_of_numerals {s : String} (h : ∀ c ∈ s.toList, isNumeral c = true) :
    parseFloat? s = spelledFloat? s.toList := by
  have hascii : s.toList.map asciiForm = s.toList :=
    (List.map_congr_left fun c hc => asciiForm_of_isNumeral (h c hc)).trans (List.map_id' _)
  have hunderscore : '_' ∉ s.toList := fun hmem => by
    have := h _ hmem
    cases this
  rw [parseFloat?, hascii, trimBy_eq_self fun c hc => isAsciiBlank_of_isNumeral (h c hc),
    joinDigits?_eq_self (by simp) hunderscore, Option.bind_some]

/-! ## Signs -/

open Float.Model

variable {d : Decimal} {x y : Float} {s : Sign} {m : ℕ} {e : ℤ} {hm : 0 < m}

def signChars : Sign → List Char
  | .negative => ['-']
  | .positive => []

def withSign (s : Sign) (x : Float) : Float :=
  match s with
  | .negative => -x
  | .positive => x

theorem unpack_withSign (hx : x.toModel.unpack = .finite s m e hm) :
    (withSign s x).toModel.unpack = .finite .positive m e hm := by
  cases s with
  | positive => exact hx
  | negative => rw [withSign, Packing.unpack_neg, hx]; rfl

theorem unpack_withSign_withSign (s : Sign) (x : Float) :
    (withSign s (withSign s x)).toModel.unpack = x.toModel.unpack := by
  cases s with
  | positive => rfl
  | negative =>
    rw [withSign, withSign, Packing.unpack_neg, Packing.unpack_neg]
    rcases x.toModel.unpack with (_ | _) | _ | (_ | _) | ⟨_ | _, m, e, hm⟩ <;> rfl

theorem special?_of_digit {rest : List Char} (hc : c.isDigit = true) : special? (c :: rest) = none := by
  have hlower : c.toLower = c := by
    refine dif_neg fun hupper => ?_
    simp only [Char.isDigit, Bool.and_eq_true, decide_eq_true_eq] at hc
    have hle : 'A'.val ≤ '9'.val := UInt32.le_trans hupper.1 hc.2
    exact absurd hle (by decide)
  have hi : c ≠ 'i' := by
    rintro rfl
    cases hc
  have hn : c ≠ 'n' := by
    rintro rfl
    cases hc
  simp [special?, specialWords, hlower, Ne.symm hi, Ne.symm hn]

theorem splitSign_of_digit {rest : List Char} (hc : c.isDigit = true) :
    splitSign (c :: rest) = (false, c :: rest) := by
  unfold splitSign
  split
  · rename_i heq
    cases heq
    cases hc
  · rename_i heq
    cases heq
    cases hc
  · rfl

theorem spelledFloat?_of_denotes (h : Denotes l d.value) (hd : d.Spells y) (s : Sign) :
    ∃ x, spelledFloat? (signChars s ++ l) = some x ∧
      x.toModel.unpack = (withSign s y).toModel.unpack := by
  obtain ⟨c, rest, rfl, hc⟩ := h.starts
  obtain ⟨digits, power, hdecimal, hvalue⟩ := h.decimal
  have hspells : Decimal.Spells ⟨digits, power⟩ y := hd.congr hvalue.symm
  cases s with
  | positive =>
    refine ⟨ofDecimal false digits power, ?_, hspells.unpack⟩
    simp only [signChars, List.nil_append, spelledFloat?, splitSign_of_digit hc, special?_of_digit hc,
      hdecimal, Option.map_some]
  | negative =>
    refine ⟨ofDecimal true digits power, ?_, ?_⟩
    · simp only [signChars, List.singleton_append, spelledFloat?, splitSign, special?_of_digit hc,
        hdecimal, Option.map_some]
    · change (-(ofDecimal false digits power)).toModel.unpack = (-y).toModel.unpack
      rw [Packing.unpack_neg, Packing.unpack_neg, ← hspells.unpack]
      rfl

/-! ## Whole numbers -/

theorem eq_apply_of_value {n : ℤ} (hx : x.toModel.unpack = .finite s m e hm)
    (h : value x = some (n : ℚ)) : (m : ℚ) * 2 ^ e = n.natAbs ∧ n = s.apply n.natAbs ∧ 0 < n.natAbs := by
  have hpos := mul_zpow_pos hm e
  rw [value, hx] at h
  cases s with
  | positive =>
    have hn : (m : ℚ) * 2 ^ e = n := Option.some.inj h
    have hpos : 0 < n := by exact_mod_cast hn ▸ hpos
    refine ⟨?_, ?_, by omega⟩
    · rw [hn, Nat.cast_natAbs, abs_of_pos hpos]
    · change n = (n.natAbs : ℤ)
      omega
  | negative =>
    have hn : (m : ℚ) * 2 ^ e = -n := by
      rw [← Option.some.inj h, neg_neg]
    have hneg : n < 0 := by
      have : (0 : ℚ) < -n := hn ▸ hpos
      have : (0 : ℤ) < -n := by exact_mod_cast this
      omega
    refine ⟨?_, ?_, by omega⟩
    · rw [hn, Nat.cast_natAbs, abs_of_neg hneg]
      push_cast
      rfl
    · change n = -(n.natAbs : ℤ)
      omega

theorem wholeOf?_of_unpack {k : ℕ} (hx : x.toModel.unpack = .finite s m e hm)
    (h : (m : ℚ) * 2 ^ e = k) : wholeOf? x = some (s.apply k) := by
  unfold wholeOf?
  rw [hx]
  dsimp only
  split
  · rename_i he
    have hk : m * Nat.pow 2 e.toNat = k := by exact_mod_cast (mul_zpow_of_nonneg he).symm.trans h
    rw [hk]
    rfl
  · rename_i he
    obtain ⟨j, rfl⟩ : ∃ j : ℕ, e = -j := ⟨(-e).toNat, by omega⟩
    have hmantissa : m = k * Nat.pow 2 j := by
      rw [zpow_neg, zpow_natCast, mul_inv_eq_iff_eq_mul₀ (by positivity)] at h
      exact_mod_cast h
    have hk : m / Nat.pow 2 j = k := by
      rw [hmantissa]
      exact Nat.mul_div_cancel k (Nat.pow_pos two_pos)
    rw [neg_neg, Int.toNat_natCast, hk, hmantissa, Nat.mul_mod_left, if_pos rfl]
    rfl

theorem wholeOf?_of_value {n : ℤ} (h : value x = some (n : ℚ)) : wholeOf? x = some n := by
  cases hx : x.toModel.unpack with
  | notANumber =>
    rw [value, hx] at h
    cases h
  | infinity s =>
    rw [value, hx] at h
    cases h
  | zero s =>
    rw [value, hx] at h
    have hn : n = 0 := by exact_mod_cast (Option.some.inj h).symm
    simp [wholeOf?, hx, hn]
  | finite s m e hm =>
    obtain ⟨hvalue, hn, -⟩ := eq_apply_of_value hx h
    rw [wholeOf?_of_unpack hx hvalue, ← hn]

theorem toList_toString_apply (s : Sign) {k : ℕ} (hk : 0 < k) :
    (toString (s.apply k)).toList = signChars s ++ Nat.toDigits 10 k := by
  cases s with
  | positive =>
    change (toString (k : ℤ)).toList = _
    rw [Int.toString_eq_repr, Int.repr_eq_if, if_pos (by omega), Int.toNat_natCast, Nat.toList_repr]
    rfl
  | negative =>
    change (toString (-(k : ℤ))).toList = _
    rw [Int.toString_eq_repr, Int.repr_eq_if, if_neg (by omega), neg_neg, Int.toNat_natCast,
      String.toList_append, Nat.toList_repr]
    rfl

/-! ## Texts of floats -/

theorem denotes_toDigits (k : ℕ) : Denotes (Nat.toDigits 10 k) (Decimal.value ⟨k, 0⟩) := by
  have hdenotes := denotes_whole (allDigits_toDigits k) Nat.toDigits_ne_nil exponent?_nil (by simp)
  rwa [List.append_nil, natOfDigits_toDigits] at hdenotes

theorem toList_signed (s : Sign) (t : String) :
    (Manner.floatText.signed s t).toList = signChars s ++ t.toList := by
  cases s with
  | positive => rfl
  | negative => exact String.toList_append

theorem floatText_of_finite (hx : x.toModel.unpack = .finite s m e hm) :
    floatText x =
      Manner.floatText.signed s (valueManner.decimalText (shortest (withSign s x) m e)) := by
  rw [floatText, Manner.floatText, hx]
  rfl

theorem exists_text_of_finite (hx : x.toModel.unpack = .finite s m e hm) :
    ∃ l d, (Measure.ofFloat x).toList = signChars s ++ l ∧ Denotes l d.value ∧
      Decimal.Spells d (withSign s x) := by
  have hmagnitude := unpack_withSign hx
  unfold Measure.ofFloat
  cases hwhole : wholeOf? x with
  | some n =>
    obtain ⟨hvalue, hn, hpos⟩ := eq_apply_of_value hx (value_of_wholeOf? hwhole)
    refine ⟨_, ⟨n.natAbs, 0⟩, ?_, denotes_toDigits n.natAbs, ?_⟩
    · rw [← toList_toString_apply s hpos, ← hn]
    · refine Decimal.spells_of_value_eq hmagnitude ?_
      rw [Decimal.value, zpow_zero, mul_one, hvalue]
  | none =>
    refine ⟨_, shortest (withSign s x) m e, ?_, Manner.denotes_decimalText _,
      Decimal.spells_shortest hmagnitude⟩
    rw [← toList_signed, floatText_of_finite hx]

/-! ## Measures -/

theorem unpack_ne_notANumber (h : x.isNaN = false) : x.toModel.unpack ≠ .notANumber := by
  intro hx
  have hnumber : x.toModel.unpack.isNaN = false := h
  rw [hx] at hnumber
  cases hnumber

theorem beq_of_rankOf_eq {u : Float.Model.UnpackedFloat} (h : x.isNaN = false)
    (hy : y.toModel.unpack = u) (hu : rankOf u = rankOf x.toModel.unpack) : (y == x) = true := by
  refine (beq_iff_rankOf _ _).mpr ?_
  rw [hy, hu]
  cases hx : x.toModel.unpack with
  | notANumber => exact absurd hx (unpack_ne_notANumber h)
  | infinity s => cases s <;> exact ⟨_, rfl, rfl⟩
  | zero s => exact ⟨_, rfl, rfl⟩
  | finite s m e hm => cases s <;> exact ⟨_, rfl, rfl⟩

theorem numerals_signChars (s : Sign) : ∀ c ∈ signChars s, isNumeral c = true := by
  cases s <;> simp [signChars, isNumeral]

/-- A float that is a number is written in characters of numbers, and it is read back from them. -/
theorem readsBack_ofFloat (h : x.isNaN = false) :
    (∀ c ∈ (Measure.ofFloat x).toList, isNumeral c = true) ∧
      ∃ y, spelledFloat? (Measure.ofFloat x).toList = some y ∧ (y == x) = true := by
  cases hx : x.toModel.unpack with
  | notANumber => exact absurd hx (unpack_ne_notANumber h)
  | infinity s =>
    have htext : (Measure.ofFloat x).toList = signChars s ++ "inf".toList := by
      have hwhole : wholeOf? x = none := by simp [wholeOf?, hx]
      rw [Measure.ofFloat, hwhole, ← toList_signed]
      simp only [floatText, Manner.floatText, hx]
    rw [htext]
    refine ⟨?_, withSign s infinity, by cases s <;> rfl, ?_⟩
    · intro c hc
      refine (List.mem_append.mp hc).elim (numerals_signChars s c) fun hc => ?_
      fin_cases hc <;> rfl
    · exact beq_of_rankOf_eq h (u := .infinity s) (by cases s <;> rfl) (by rw [hx])
  | zero s =>
    have htext : (Measure.ofFloat x).toList = ['0'] := by
      have hwhole : wholeOf? x = some 0 := by simp [wholeOf?, hx]
      have hzero : (toString (0 : ℤ)).toList = ['0'] := by
        rw [Int.toString_eq_repr, Int.repr_eq_if, if_pos le_rfl, Int.toNat_zero, Nat.toList_repr,
          Nat.toDigits_zero]
      rw [Measure.ofFloat, hwhole]
      exact hzero
    rw [htext]
    refine ⟨by simp [isNumeral], ofDecimal false 0 0, rfl, ?_⟩
    exact beq_of_rankOf_eq h (unpack_ofDecimal_zero 0) (by rw [hx]; rfl)
  | finite s m e hm =>
    obtain ⟨l, d, htext, hdenotes, hspells⟩ := exists_text_of_finite hx
    obtain ⟨y, hy, hunpack⟩ := spelledFloat?_of_denotes hdenotes hspells s
    rw [htext]
    refine ⟨?_, y, hy, beq_of_rankOf_eq h hunpack ?_⟩
    · intro c hc
      exact (List.mem_append.mp hc).elim (numerals_signChars s c) (hdenotes.numerals c)
    · rw [unpack_withSign_withSign]

end DesignLint.Number
