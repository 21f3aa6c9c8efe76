import DesignLint.Measure
import DesignLint.Proofs.Number.Decimal

/-! # Numbers that are read back -/

namespace DesignLint.Number

/-! ## Digits -/

theorem natOfDigits_eq (l : List Char) : natOfDigits l = Nat.ofDigitChars 10 l 0 := by
  rw [natOfDigits, Nat.ofDigitChars_eq_foldl]
  congr 1
  funext n c
  rw [Nat.mul_comm]
  rfl

theorem natOfDigits_toDigits (n : ℕ) : natOfDigits (Nat.toDigits 10 n) = n := by
  rw [natOfDigits_eq, Nat.ofDigitChars_ten_toDigits]

theorem natOfDigits_append_zeros (l : List Char) (k : ℕ) :
    natOfDigits (l ++ List.replicate k '0') = natOfDigits l * 10 ^ k := by
  induction k with
  | zero => simp
  | succ k ih =>
    rw [List.replicate_succ', ← List.append_assoc, natOfDigits, List.foldl_append, ← natOfDigits, ih,
      pow_succ, ← Nat.mul_assoc]
    rfl

theorem natOfDigits_zeros_append (l : List Char) (k : ℕ) :
    natOfDigits (List.replicate k '0' ++ l) = natOfDigits l := by
  induction k with
  | zero => rfl
  | succ k ih =>
    rw [List.replicate_succ, ← ih]
    rfl

def AllDigits (l : List Char) : Prop := ∀ c ∈ l, c.isDigit = true

theorem allDigits_toDigits (n : ℕ) : AllDigits (Nat.toDigits 10 n) := fun _ hc =>
  Nat.isDigit_of_mem_toDigits (by decide) (by decide) hc

theorem allDigits_zeros (k : ℕ) : AllDigits (List.replicate k '0') := by
  intro c hc
  rw [List.eq_of_mem_replicate hc]
  rfl

theorem AllDigits.append {a b : List Char} (ha : AllDigits a) (hb : AllDigits b) :
    AllDigits (a ++ b) := by
  intro c hc
  exact (List.mem_append.mp hc).elim (ha c) (hb c)

/-! ## Decimals in text -/

variable {before fraction tail : List Char} {power : ℤ}

theorem exponent?_nil : exponent? [] = some 0 := rfl

theorem head_of_exponent? (h : exponent? tail = some power) :
    ∀ c ∈ tail.head?, c.isDigit = false ∧ c ≠ '.' := by
  cases tail with
  | nil => simp
  | cons c rest =>
    simp only [exponent?] at h
    split at h
    · rename_i hexponent
      rintro c' ⟨⟩
      rcases hexponent.1 with rfl | rfl <;> decide
    · cases h

theorem takeWhile_digits {l : List Char} (hl : AllDigits l) (h : ∀ c ∈ tail.head?, c.isDigit = false) :
    (l ++ tail).takeWhile Char.isDigit = l := by
  rw [List.takeWhile_append_of_pos hl]
  cases tail with
  | nil => simp
  | cons c rest => simp [h c rfl]

theorem dropWhile_digits {l : List Char} (hl : AllDigits l) (h : ∀ c ∈ tail.head?, c.isDigit = false) :
    (l ++ tail).dropWhile Char.isDigit = tail := by
  rw [List.dropWhile_append_of_pos hl]
  cases tail with
  | nil => rfl
  | cons c rest => simp [h c rfl]

theorem decimal?_whole (hbefore : AllDigits before) (hne : before ≠ [])
    (htail : exponent? tail = some power) :
    decimal? (before ++ tail) = some (natOfDigits before, power) := by
  have hhead := head_of_exponent? htail
  have hdigit : ∀ c ∈ tail.head?, c.isDigit = false := fun c hc => (hhead c hc).1
  have hpoint : tail.head? ≠ some '.' := fun h => (hhead '.' h).2 rfl
  unfold decimal?
  simp only [takeWhile_digits hbefore hdigit, dropWhile_digits hbefore hdigit]
  cases tail with
  | nil => simp_all
  | cons c rest => simp_all

theorem decimal?_point (hbefore : AllDigits before) (hne : before ≠ []) (hfraction : AllDigits fraction)
    (htail : exponent? tail = some power) :
    decimal? (before ++ '.' :: (fraction ++ tail)) =
      some (natOfDigits (before ++ fraction), power - fraction.length) := by
  have hdigit : ∀ c ∈ tail.head?, c.isDigit = false := fun c hc => (head_of_exponent? htail c hc).1
  have hpoint : ∀ c ∈ ('.' :: (fraction ++ tail)).head?, c.isDigit = false := by simp
  unfold decimal?
  simp only [takeWhile_digits hbefore hpoint, dropWhile_digits hbefore hpoint,
    takeWhile_digits hfraction hdigit]
  simp [hne, htail]

/-! ## Texts that stand for a number -/

def isNumeral (c : Char) : Bool := c.isDigit || "+-.einf".toList.contains c

/-- The text is that of a decimal that stands for this number. -/
structure Denotes (l : List Char) (q : ℚ) : Prop where
  starts : ∃ c rest, l = c :: rest ∧ c.isDigit = true
  numerals : ∀ c ∈ l, isNumeral c = true
  decimal : ∃ digits power, decimal? l = some (digits, power) ∧ (digits : ℚ) * 10 ^ power = q

theorem AllDigits.starts (h : AllDigits before) (hne : before ≠ []) (tail : List Char) :
    ∃ c rest, before ++ tail = c :: rest ∧ c.isDigit = true := by
  obtain ⟨c, rest, rfl⟩ := List.exists_cons_of_ne_nil hne
  exact ⟨c, rest ++ tail, rfl, h c List.mem_cons_self⟩

theorem AllDigits.numerals (h : AllDigits before) : ∀ c ∈ before, isNumeral c = true := by
  intro c hc
  rw [isNumeral, h c hc, Bool.true_or]

theorem denotes_whole (hbefore : AllDigits before) (hne : before ≠ [])
    (htail : exponent? tail = some power) (hnumerals : ∀ c ∈ tail, isNumeral c = true) :
    Denotes (before ++ tail) (natOfDigits before * 10 ^ power) where
  starts := hbefore.starts hne tail
  numerals := by
    intro c hc
    exact (List.mem_append.mp hc).elim (hbefore.numerals c) (hnumerals c)
  decimal := ⟨_, _, decimal?_whole hbefore hne htail, rfl⟩

theorem denotes_point (hbefore : AllDigits before) (hne : before ≠ []) (hfraction : AllDigits fraction)
    (htail : exponent? tail = some power) (hnumerals : ∀ c ∈ tail, isNumeral c = true) :
    Denotes (before ++ '.' :: (fraction ++ tail))
      (natOfDigits (before ++ fraction) * 10 ^ (power - fraction.length)) where
  starts := hbefore.starts hne _
  numerals := by
    intro c hc
    simp only [List.mem_append, List.mem_cons] at hc
    rcases hc with hc | rfl | hc | hc
    · exact hbefore.numerals c hc
    · rfl
    · exact hfraction.numerals c hc
    · exact hnumerals c hc
  decimal := ⟨_, _, decimal?_point hbefore hne hfraction htail, rfl⟩

/-! ## The text of a decimal -/

namespace Decimal

theorem allDigits_digitList (d : Decimal) : AllDigits d.digitList := allDigits_toDigits d.digits

theorem natOfDigits_digitList (d : Decimal) : natOfDigits d.digitList = d.digits :=
  natOfDigits_toDigits d.digits

theorem digitList_ne_nil (d : Decimal) : d.digitList ≠ [] := Nat.toDigits_ne_nil

end Decimal

namespace Manner

theorem toList_exponentText (power : ℤ) : ∃ ds, AllDigits ds ∧ ds ≠ [] ∧
    natOfDigits ds = power.natAbs ∧
    (exponentText power).toList = (if power < 0 then '-' else '+') :: ds := by
  have hdigits : (toString power.natAbs).toList = Nat.toDigits 10 power.natAbs := by simp
  refine ⟨(if power.natAbs < 10 then ['0'] else []) ++ Nat.toDigits 10 power.natAbs, ?_, ?_, ?_, ?_⟩
  · refine AllDigits.append ?_ (allDigits_toDigits _)
    split
    · exact allDigits_zeros 1
    · simp [AllDigits]
  · simp
  · split
    · exact (natOfDigits_zeros_append _ 1).trans (natOfDigits_toDigits _)
    · exact natOfDigits_toDigits _
  · rw [exponentText, String.toList_append]
    split <;> split <;> simp

theorem exponent?_exponentText (power : ℤ) :
    exponent? ('e' :: (exponentText power).toList) = some power := by
  obtain ⟨ds, hds, hne, hvalue, htext⟩ := toList_exponentText power
  have hall : ds.all Char.isDigit = true := List.all_eq_true.mpr hds
  rcases lt_or_ge power 0 with hlt | hge
  · rw [htext, if_pos hlt]
    simp only [exponent?, splitSign, hall, hvalue]
    simp [hne, abs_of_neg hlt]
  · rw [htext, if_neg hge.not_gt]
    simp only [exponent?, splitSign, hall, hvalue]
    simp [hne, abs_of_nonneg hge]

theorem numerals_exponentText (power : ℤ) : ∀ c ∈ (exponentText power).toList, isNumeral c = true := by
  obtain ⟨ds, hds, -, -, htext⟩ := toList_exponentText power
  rw [htext]
  intro c hc
  rcases List.mem_cons.mp hc with rfl | hc
  · split <;> rfl
  · exact hds.numerals c hc

theorem denotes_exponential (d : Decimal) : Denotes (exponential d).toList d.value := by
  have hdigits := d.allDigits_digitList
  have hvalue := d.natOfDigits_digitList
  have hnumerals : ∀ c ∈ 'e' :: (exponentText d.leadingPower).toList, isNumeral c = true := by
    intro c hc
    rcases List.mem_cons.mp hc with rfl | hc
    · rfl
    · exact numerals_exponentText d.leadingPower c hc
  have hexponent := exponent?_exponentText d.leadingPower
  unfold exponential
  split
  · rename_i hnil
    exact absurd hnil d.digitList_ne_nil
  · rename_i c rest hcons
    have hpower : d.leadingPower = d.power + rest.length := by
      rw [Decimal.leadingPower, hcons, List.length_cons]
      omega
    rw [hcons] at hdigits hvalue
    have hc : AllDigits [c] := fun c' hc' => hdigits c' (by simp_all)
    have hrest : AllDigits rest := fun c' hc' => hdigits c' (List.mem_cons_of_mem c hc')
    cases rest with
    | nil =>
      convert denotes_whole hc (by simp) hexponent hnumerals using 1
      · simp
      · simp [Decimal.value, hvalue, hpower]
    | cons c' rest =>
      convert denotes_point hc (by simp) hrest hexponent hnumerals using 1
      · simp
      · rw [List.singleton_append, hvalue, hpower, Int.add_sub_cancel]
        rfl

/-- The zeros of a whole number stand behind the digits, and so does the fraction, which is read as one
digit more. -/
theorem denotes_zeros_behind {d : Decimal} {k : ℕ} (hk : d.power = k) :
    Denotes (d.digitList ++ List.replicate k '0' ++ ['.', '0']) d.value := by
  have hdigits := d.allDigits_digitList
  have hvalue := d.natOfDigits_digitList
  have hne := d.digitList_ne_nil
  convert denotes_point (hdigits.append (allDigits_zeros k)) (by simp [hne]) (allDigits_zeros 1)
    exponent?_nil (by simp) using 1
  · simp
  · rw [List.append_assoc, List.replicate_append_replicate, natOfDigits_append_zeros, hvalue,
      Decimal.value, hk, zpow_sub₀ (by norm_num)]
    push_cast
    simp only [zpow_natCast, pow_succ, List.length_singleton, pow_zero]
    field_simp

theorem denotes_point_within {d : Decimal} {k : ℕ} (hnegative : d.power < 0)
    (hk : d.leadingPower = k) :
    Denotes (d.digitList.take (k + 1) ++ '.' :: d.digitList.drop (k + 1)) d.value := by
  have hdigits := d.allDigits_digitList
  have hvalue := d.natOfDigits_digitList
  have hne := d.digitList_ne_nil
  have hlength : d.leadingPower = d.power + d.digitList.length - 1 := rfl
  have hwhole : AllDigits (d.digitList.take (k + 1)) := fun c hc =>
    hdigits c (List.mem_of_mem_take hc)
  have hfraction : AllDigits (d.digitList.drop (k + 1)) := fun c hc =>
    hdigits c (List.mem_of_mem_drop hc)
  convert denotes_point hwhole (by simp [hne]) hfraction exponent?_nil (by simp) using 1
  · simp
  · rw [List.take_append_drop, hvalue, Decimal.value, List.length_drop]
    congr 2
    omega

theorem denotes_zeros_before {d : Decimal} {k : ℕ} (hk : -d.leadingPower - 1 = k) :
    Denotes ('0' :: '.' :: (List.replicate k '0' ++ d.digitList)) d.value := by
  have hdigits := d.allDigits_digitList
  have hvalue := d.natOfDigits_digitList
  have hlength : d.leadingPower = d.power + d.digitList.length - 1 := rfl
  convert denotes_point (allDigits_zeros 1) (by simp) ((allDigits_zeros k).append hdigits)
    exponent?_nil (by simp) using 1
  · simp
  · rw [← List.append_assoc, List.replicate_append_replicate, natOfDigits_zeros_append, hvalue,
      Decimal.value, List.length_append, List.length_replicate]
    congr 2
    omega

theorem denotes_positional (d : Decimal) : Denotes (valueManner.positional d).toList d.value := by
  unfold positional
  extract_lets ds before
  split
  · rename_i hpower
    obtain ⟨k, hk⟩ := Int.eq_ofNat_of_zero_le hpower
    simpa [ds, hk, valueManner] using denotes_zeros_behind hk
  · rename_i hnegative
    split
    · rename_i hleading
      obtain ⟨k, hk⟩ := Int.eq_ofNat_of_zero_le hleading
      have hbefore : before = k + 1 := by omega
      simpa [ds, hbefore] using denotes_point_within (by omega) hk
    · rename_i hleading
      obtain ⟨k, hk⟩ : ∃ k : ℕ, -d.leadingPower - 1 = k := ⟨(-d.leadingPower - 1).toNat, by omega⟩
      simpa [ds, hk] using denotes_zeros_before hk

theorem denotes_decimalText (d : Decimal) : Denotes (valueManner.decimalText d).toList d.value := by
  have hmanner : valueManner.decimalText d =
      if d.leadingPower < -4 ∨ 16 ≤ d.leadingPower then exponential d
      else valueManner.positional d := rfl
  rw [hmanner]
  split
  · exact denotes_exponential d
  · exact denotes_positional d

end Manner

end DesignLint.Number
