import DesignLint.Proofs.Outcome
import DesignLint.RuleOption.Schema

/-! # The checks of declared options -/

namespace DesignLint.Acceptor

/-! ## One check for each type -/

/-- The check is that of a declaration: of its type and with its constraints. -/
inductive IsOf (d : Declaration) : Acceptor → Prop
  | string {least most : Option Nat} {pattern : Option (String × Format.Expression)}
    (htype : d.type = .string) (hleast : stated length d.minLength = .ok least)
    (hmost : stated length d.maxLength = .ok most)
    (hpattern : stated Acceptor.pattern d.pattern = .ok pattern) : IsOf d (text least most pattern)
  | number {least most : Option Float} (htype : d.type = .number)
    (hleast : stated Field.float d.minimum = .ok least)
    (hmost : stated Field.float d.maximum = .ok most) : IsOf d (Acceptor.number least most)
  | integer {least most : Option Int} (htype : d.type = .integer)
    (hleast : stated Field.whole d.minimum = .ok least)
    (hmost : stated Field.whole d.maximum = .ok most) : IsOf d (Acceptor.integer least most)
  | boolean (htype : d.type = .boolean) : IsOf d Acceptor.boolean
  | stringArray {least most : Option Nat} {pattern : Option (String × Format.Expression)}
    (htype : d.type = .stringArray) (hpattern : stated Acceptor.pattern d.pattern = .ok pattern)
    (hleast : stated length d.minLength = .ok least)
    (hmost : stated length d.maxLength = .ok most) :
    IsOf d (array (text none none pattern) least most)
  | numberArray {low high : Option Float} {least most : Option Nat} (htype : d.type = .numberArray)
    (hlow : stated Field.float d.minimum = .ok low)
    (hhigh : stated Field.float d.maximum = .ok high)
    (hleast : stated length d.minLength = .ok least)
    (hmost : stated length d.maxLength = .ok most) :
    IsOf d (array (Acceptor.number low high) least most)

theorem isOf_of_ofDeclaration {d : Declaration} {a : Acceptor} (h : ofDeclaration d = .ok a) :
    IsOf d a := by
  unfold ofDeclaration at h
  cases htype : d.type with
  | string =>
    simp only [htype, Outcome.bind_eq_ok_iff] at h
    obtain ⟨least, hleast, most, hmost, pattern, hpattern, ⟨⟩⟩ := h
    exact .string htype hleast hmost hpattern
  | number =>
    simp only [htype, Outcome.bind_eq_ok_iff] at h
    obtain ⟨least, hleast, most, hmost, ⟨⟩⟩ := h
    exact .number htype hleast hmost
  | integer =>
    simp only [htype, Outcome.bind_eq_ok_iff] at h
    obtain ⟨least, hleast, most, hmost, ⟨⟩⟩ := h
    exact .integer htype hleast hmost
  | boolean =>
    rw [htype] at h
    cases h
    exact .boolean htype
  | stringArray =>
    simp only [htype, Outcome.bind_eq_ok_iff] at h
    obtain ⟨pattern, hpattern, least, hleast, most, hmost, ⟨⟩⟩ := h
    exact .stringArray htype hpattern hleast hmost
  | numberArray =>
    simp only [htype, Outcome.bind_eq_ok_iff] at h
    obtain ⟨low, hlow, high, hhigh, least, hleast, most, hmost, ⟨⟩⟩ := h
    exact .numberArray htype hlow hhigh hleast hmost
  | unknown name =>
    rw [htype] at h
    cases h

/-! ## Accepted values -/

variable {v w : Json}

theorem text_eq_ok_iff {least most : Option Nat} {pattern : Option (String × Format.Expression)} :
    text least most pattern v = .ok w ↔ ∃ s, v = .str s ∧ w = .str s ∧ (∀ n ∈ least, n ≤ s.length) ∧
      (∀ n ∈ most, s.length ≤ n) ∧ ∀ p ∈ pattern, p.2.isFoundIn s = true := by
  cases v with
  | str s =>
    cases least <;> cases most <;> cases pattern <;> simp [text, Checked.complain] <;> grind
  | _ => simp [text, Checked.complain]

theorem boundedFloat_eq_ok_iff {least most : Option Float} {x : Float} :
    boundedFloat least most v x = .ok w ↔
      w = .float x ∧ (∀ b ∈ least, b ≤ x) ∧ ∀ b ∈ most, x ≤ b := by
  have habove : boundedFloat.above v x least = .ok w ↔ w = .float x ∧ ∀ b ∈ least, b ≤ x := by
    unfold boundedFloat.above
    cases least with
    | none => simp [eq_comm]
    | some b => by_cases hb : b ≤ x <;> simp [hb, Checked.complain, eq_comm]
  unfold boundedFloat
  cases most with
  | none => simpa using habove
  | some b => by_cases hb : x ≤ b <;> simp [hb, habove, Checked.complain]

theorem number_eq_ok_iff {least most : Option Float} :
    Acceptor.number least most v = .ok w ↔
      ∃ x, (v = .float x ∨ ∃ n, v = .whole n ∧ Number.nearest? n = some x) ∧ w = .float x ∧
        (∀ b ∈ least, b ≤ x) ∧ ∀ b ∈ most, x ≤ b := by
  cases v with
  | num n =>
    cases n with
    | whole n =>
      cases hn : Number.nearest? n <;>
        simp [Acceptor.number, hn, boundedFloat_eq_ok_iff, Checked.complain, Json.float, Json.whole]
    | float x => simp [Acceptor.number, boundedFloat_eq_ok_iff, Json.float, Json.whole]
  | _ => simp [Acceptor.number, Checked.complain, Json.float, Json.whole]

theorem integer_eq_ok_iff {least most : Option Int} :
    Acceptor.integer least most v = .ok w ↔
      ∃ n, v = .whole n ∧ w = .whole n ∧ (∀ b ∈ least, b ≤ n) ∧ ∀ b ∈ most, n ≤ b := by
  have habove : ∀ n, (∀ b ∈ most, n ≤ b) ↔ most.filter (· < n) = none := by
    intro n
    cases most <;> simp
  have hbelow : ∀ n, (∀ b ∈ least, b ≤ n) ↔ least.filter (n < ·) = none := by
    intro n
    cases least <;> simp
  simp only [habove, hbelow]
  cases v with
  | num k =>
    cases k with
    | whole n =>
      cases hmost : most.filter (· < n) <;> cases hleast : least.filter (n < ·) <;>
        simp [Acceptor.integer, hmost, hleast, Checked.complain, Json.whole, @eq_comm _ _ w,
          -Option.filter_eq_none_iff]
    | float x => simp [Acceptor.integer, Checked.complain, Json.whole]
  | _ => simp [Acceptor.integer, Checked.complain, Json.whole]

theorem boolean_eq_ok_iff : Acceptor.boolean v = .ok w ↔ ∃ b, v = .bool b ∧ w = .bool b := by
  cases v <;> simp [Acceptor.boolean, Field.strictFlag, Checked.complain, Except.map, eq_comm]

theorem items_eq_ok_iff {item : Acceptor} {i : Nat} {l m : List Json} :
    items item i l = .ok m ↔ List.Forall₂ (fun v w => item v = .ok w) l m := by
  induction l generalizing i m with
  | nil => cases m <;> simp [items]
  | cons v rest ih =>
    rw [items, Outcome.map_eq_ok_iff, List.forall₂_cons_left_iff]
    simp only [Outcome.both_eq_ok_iff, Checked.within, Outcome.mapError_eq_ok_iff, ih, Prod.exists]
    constructor
    · rintro ⟨w, ws, ⟨hw, hws⟩, rfl⟩
      exact ⟨w, ws, hw, hws, rfl⟩
    · rintro ⟨w, ws, hw, hws, rfl⟩
      exact ⟨w, ws, ⟨hw, hws⟩, rfl⟩

theorem array_eq_ok_iff {item : Acceptor} {least most : Option Nat} :
    array item least most v = .ok w ↔ ∃ l m, v = .arr l ∧ w = .arr m ∧
      List.Forall₂ (fun v w => item v = .ok w) l m ∧ (∀ n ∈ least, n ≤ m.length) ∧
      ∀ n ∈ most, m.length ≤ n := by
  have hmost : ∀ l : List Json, (most.map fun n => decide (n < l.length)).getD false = true ↔
      ¬ ∀ n ∈ most, l.length ≤ n := by
    cases most <;> simp
  have hleast : ∀ m : List Json, (least.map fun n => decide (m.length < n)).getD false = true ↔
      ¬ ∀ n ∈ least, n ≤ m.length := by
    cases least <;> simp
  constructor
  · intro h
    unfold array at h
    split at h
    · rename_i l
      split at h
      · cases h
      · rename_i hlong
        split at h
        · cases h
        · rename_i m hm
          have hitems := items_eq_ok_iff.mp hm
          split at h
          · cases h
          · rename_i hshort
            rw [hmost, not_not, hitems.length_eq] at hlong
            rw [hleast, not_not] at hshort
            cases h
            exact ⟨l, m, rfl, rfl, hitems, hshort, hlong⟩
    · cases h
  · rintro ⟨l, m, rfl, rfl, hitems, hshort, hlong⟩
    have hlong' := (hmost l).not_left.mpr (hitems.length_eq ▸ hlong)
    have hshort' := (hleast m).not_left.mpr hshort
    simp only [array, if_neg hlong', items_eq_ok_iff.mpr hitems, if_neg hshort']

/-! ## Complaints -/

def Complains (a : Acceptor) : Prop := ∀ v, a v ≠ .error []

theorem complains_text (least most : Option Nat) (pattern : Option (String × Format.Expression)) :
    (text least most pattern).Complains := by
  intro v
  unfold text
  split
  · split
    · simp [Checked.complain]
    · split
      · simp [Checked.complain]
      · split
        · split <;> simp [Checked.complain]
        · simp
  · simp [Checked.complain]

theorem boundedFloat_ne (least most : Option Float) (v : Json) (x : Float) :
    boundedFloat least most v x ≠ .error [] := by
  have habove : ∀ b, boundedFloat.above v x b ≠ .error [] := by
    intro b
    unfold boundedFloat.above
    split
    · split <;> simp [Checked.complain]
    · simp
  unfold boundedFloat
  split
  · split
    · exact habove _
    · simp [Checked.complain]
  · exact habove _

theorem complains_number (least most : Option Float) : (Acceptor.number least most).Complains := by
  intro v
  unfold Acceptor.number
  split
  · exact boundedFloat_ne _ _ _ _
  · split
    · exact boundedFloat_ne _ _ _ _
    · simp [Checked.complain]
  · simp [Checked.complain]

theorem complains_integer (least most : Option Int) :
    (Acceptor.integer least most).Complains := by
  intro v
  unfold Acceptor.integer
  split
  · split <;> simp [Checked.complain]
  · simp [Checked.complain]

theorem complains_boolean : Acceptor.boolean.Complains := by
  intro v
  cases v <;> simp [Acceptor.boolean, Field.strictFlag, Checked.complain, Except.map]

theorem items_ne {item : Acceptor} (hitem : item.Complains) (i : Nat) (l : List Json) :
    items item i l ≠ .error [] := by
  induction l generalizing i with
  | nil => simp [items]
  | cons v rest ih =>
    have hv := hitem v
    have hrest := ih (i + 1)
    rw [items]
    cases hcheck : item v with
    | ok w =>
      cases hothers : items item (i + 1) rest with
      | ok ws => simp [Checked.within, Checked.both, Except.map, Except.mapError]
      | error q =>
        rw [hothers] at hrest
        simpa [Checked.within, Checked.both, Except.map, Except.mapError] using hrest
    | error p =>
      have hp : p ≠ [] := fun h => hv (by rw [hcheck, h])
      cases items item (i + 1) rest with
      | ok ws => simpa [Checked.within, Checked.both, Except.map, Except.mapError] using hp
      | error q => simp [Checked.within, Checked.both, Except.map, Except.mapError, hp]

theorem complains_array {item : Acceptor} (hitem : item.Complains) (least most : Option Nat) :
    (array item least most).Complains := by
  intro v
  unfold array
  split
  · rename_i l
    split
    · simp [Checked.complain]
    · have hitems := items_ne hitem 0 l
      split
      · rename_i p hp
        rw [hp] at hitems
        simpa using hitems
      · split <;> simp [Checked.complain]
  · simp [Checked.complain]

theorem IsOf.complains {d : Declaration} {a : Acceptor} (h : IsOf d a) : a.Complains := by
  cases h with
  | string => exact complains_text _ _ _
  | number => exact complains_number _ _
  | integer => exact complains_integer _ _
  | boolean => exact complains_boolean
  | stringArray => exact complains_array (complains_text _ _ _) _ _
  | numberArray => exact complains_array (complains_number _ _) _ _

end DesignLint.Acceptor
