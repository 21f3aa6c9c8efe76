import DesignLint.Format.Search
import Mathlib.Data.List.Basic

/-!
# What the search for a format finds

What an expression matches is said on its own: the characters between two places match it. The
search finds something exactly when some part of the text is matched.
-/

namespace DesignLint.Format

/-! ## Steps between places -/

def Steps (r : Nat → Nat → Prop) : Nat → Nat → Nat → Prop
  | 0, i, j => i = j
  | n + 1, i, j => ∃ k, r i k ∧ Steps r n k j

def Forward (length : Nat) (r : Nat → Nat → Prop) : Prop :=
  ∀ i j, r i j → i = j ∨ i < j ∧ j ≤ length

section Steps

variable {r : Nat → Nat → Prop} {length : Nat}

theorem steps_add {m n i j : Nat} :
    Steps r (m + n) i j ↔ ∃ k, Steps r m i k ∧ Steps r n k j := by
  induction m generalizing i with
  | zero => simp [Steps]
  | succ m ih =>
    rw [Nat.succ_add, Steps]
    simp only [ih, Steps]
    constructor
    · rintro ⟨a, ha, k, hk, hj⟩
      exact ⟨k, ⟨a, ha, hk⟩, hj⟩
    · rintro ⟨k, ⟨a, ha, hk⟩, hj⟩
      exact ⟨a, ha, k, hk, hj⟩

theorem forward_steps (h : Forward length r) (n : Nat) : Forward length (Steps r n) := by
  induction n with
  | zero => exact fun i j hij => .inl hij
  | succ n ih =>
    rintro i j ⟨k, hik, hkj⟩
    have hfirst := h i k hik
    have hrest := ih k j hkj
    omega

theorem steps_within (h : Forward length r) {n i j : Nat} (hsteps : Steps r n i j) :
    ∃ m ≤ length, Steps r m i j := by
  have hshort : ∃ m ≤ j - i, Steps r m i j := by
    induction n generalizing i with
    | zero => exact ⟨0, Nat.zero_le _, hsteps⟩
    | succ n ih =>
      obtain ⟨k, hik, hkj⟩ := hsteps
      obtain ⟨m, hm, hrest⟩ := ih hkj
      rcases h i k hik with rfl | ⟨hlt, -⟩
      · exact ⟨m, hm, hrest⟩
      · have hforward := forward_steps h n k j hkj
        exact ⟨m + 1, by omega, k, hik, hrest⟩
  obtain ⟨m, hm, hmj⟩ := hshort
  have hforward := forward_steps h n i j hsteps
  exact ⟨m, by omega, hmj⟩

end Steps

/-! ## Sets of places -/

/-- A function on sets of places goes along a relation. -/
def Goes (go : Nat → Nat) (r : Nat → Nat → Prop) : Prop :=
  ∀ places j, (go places).testBit j = true ↔ ∃ i, places.testBit i = true ∧ r i j

theorem testBit_placesOf (bits : List Bool) (i : Nat) :
    (placesOf bits).testBit i = true ↔ bits[i]? = some true := by
  unfold placesOf
  rw [List.foldl_reverse]
  induction bits generalizing i with
  | nil => simp
  | cons b rest ih =>
    rw [List.foldr_cons]
    cases i with
    | zero => cases b <;> simp [Nat.testBit_zero]
    | succ i =>
      rw [List.getElem?_cons_succ, ← ih i, Nat.testBit_succ]
      have hhalf : (2 * rest.foldr (fun b n => 2 * n + b.toNat) 0 + b.toNat) / 2 =
          rest.foldr (fun b n => 2 * n + b.toNat) 0 := by
        have hlt : b.toNat < 2 := by cases b <;> decide
        omega
      rw [hhalf]

namespace Plan

variable {go : Nat → Nat} {r : Nat → Nat → Prop} {length : Nat}

theorem goes_again (h : Goes go r) (n : Nat) : Goes (again go n) (Steps r n) := by
  induction n with
  | zero =>
    intro places j
    simp [again, Steps]
  | succ n ih =>
    intro places j
    rw [again]
    split
    · rename_i hempty
      simp [hempty]
    · rw [ih]
      constructor
      · rintro ⟨k, hk, hkj⟩
        obtain ⟨i, hi, hik⟩ := (h places k).mp hk
        exact ⟨i, hi, k, hik, hkj⟩
      · rintro ⟨i, hi, k, hik, hkj⟩
        exact ⟨k, (h places k).mpr ⟨i, hi, hik⟩, hkj⟩

/-! ## Going on from fresh places -/

def Reaches (r : Nat → Nat → Prop) (n fresh j : Nat) : Prop :=
  ∃ m ≤ n, ∃ i, fresh.testBit i = true ∧ Steps r m i j

/-- Where one went on from all places that were seen, except from the fresh ones. -/
structure Explored (r : Nat → Nat → Prop) (fresh seen : Nat) : Prop where
  subset : ∀ i, fresh.testBit i = true → seen.testBit i = true
  closed : ∀ i j, seen.testBit i = true → fresh.testBit i = false → r i j → seen.testBit j = true

def newFrom (go : Nat → Nat) (fresh seen : Nat) : Nat :=
  go fresh ^^^ (go fresh &&& seen)

theorem upTo_succ (n fresh seen : Nat) :
    upTo go (n + 1) fresh seen =
      if newFrom go fresh seen = 0 then seen
      else upTo go n (newFrom go fresh seen) (seen ||| newFrom go fresh seen) := rfl

section Explored

variable {fresh seen : Nat}

theorem testBit_newFrom (h : Goes go r) (k : Nat) :
    (newFrom go fresh seen).testBit k = true ↔
      (∃ i, fresh.testBit i = true ∧ r i k) ∧ seen.testBit k = false := by
  rw [← h fresh k, newFrom, Nat.testBit_xor, Nat.testBit_and]
  cases (go fresh).testBit k <;> cases seen.testBit k <;> simp

theorem testBit_or_newFrom (h : Goes go r) (k : Nat) :
    (seen ||| newFrom go fresh seen).testBit k = true ↔
      seen.testBit k = true ∨ ∃ i, fresh.testBit i = true ∧ r i k := by
  rw [Nat.testBit_or, Bool.or_eq_true, testBit_newFrom h]
  cases seen.testBit k <;> simp

theorem explored_self (start : Nat) : Explored r start start where
  subset _ hi := hi
  closed i _ hi hnot := by
    rw [hi] at hnot
    cases hnot

theorem Explored.next (h : Goes go r) (hexplored : Explored r fresh seen) :
    Explored r (newFrom go fresh seen) (seen ||| newFrom go fresh seen) where
  subset i hi := by rw [Nat.testBit_or, hi, Bool.or_true]
  closed i k hi hnot hik := by
    rw [testBit_or_newFrom h]
    cases hfresh : fresh.testBit i with
    | true => exact .inr ⟨i, hfresh, hik⟩
    | false =>
      rw [Nat.testBit_or, hnot, Bool.or_false] at hi
      exact .inl (hexplored.closed i k hi hfresh hik)

theorem Explored.seen_or_reaches (hexplored : Explored r fresh seen) {n i j : Nat}
    (hi : seen.testBit i = true) (h : Steps r n i j) :
    seen.testBit j = true ∨ Reaches r n fresh j := by
  induction n generalizing i with
  | zero =>
    cases h
    exact .inl hi
  | succ n ih =>
    cases hfresh : fresh.testBit i with
    | true => exact .inr ⟨n + 1, Nat.le_refl _, i, hfresh, h⟩
    | false =>
      obtain ⟨k, hik, hkj⟩ := h
      rcases ih (hexplored.closed i k hi hfresh hik) hkj with hseen | ⟨m, hm, hfrom⟩
      · exact .inl hseen
      · exact .inr ⟨m, Nat.le_succ_of_le hm, hfrom⟩

theorem Explored.seen_or_reaches_succ (h : Goes go r) (hexplored : Explored r fresh seen)
    (n j : Nat) :
    seen.testBit j = true ∨ Reaches r (n + 1) fresh j ↔
      (seen ||| newFrom go fresh seen).testBit j = true ∨
        Reaches r n (newFrom go fresh seen) j := by
  constructor
  · rintro (hj | ⟨m, hm, i, hi, hij⟩)
    · exact .inl ((testBit_or_newFrom h j).mpr (.inl hj))
    · cases m with
      | zero =>
        obtain rfl : i = j := hij
        exact .inl ((testBit_or_newFrom h i).mpr (.inl (hexplored.subset i hi)))
      | succ m =>
        obtain ⟨k, hik, hkj⟩ := hij
        have hk : (seen ||| newFrom go fresh seen).testBit k = true :=
          (testBit_or_newFrom h k).mpr (.inr ⟨i, hi, hik⟩)
        rcases (hexplored.next h).seen_or_reaches hk hkj with hj | ⟨m', hm', hfrom⟩
        · exact .inl hj
        · exact .inr ⟨m', by omega, hfrom⟩
  · rintro (hj | ⟨m, hm, k, hk, hkj⟩)
    · rcases (testBit_or_newFrom h j).mp hj with hj | ⟨i, hi, hij⟩
      · exact .inl hj
      · exact .inr ⟨1, by omega, i, hi, j, hij, rfl⟩
    · obtain ⟨⟨i, hi, hik⟩, -⟩ := (testBit_newFrom h k).mp hk
      exact .inr ⟨m + 1, by omega, i, hi, k, hik, hkj⟩

theorem testBit_upTo (h : Goes go r) (hexplored : Explored r fresh seen) (n j : Nat) :
    (upTo go n fresh seen).testBit j = true ↔ seen.testBit j = true ∨ Reaches r n fresh j := by
  induction n generalizing fresh seen with
  | zero =>
    rw [upTo]
    constructor
    · exact .inl
    · rintro (hj | ⟨m, hm, i, hi, hij⟩)
      · exact hj
      · obtain rfl : m = 0 := Nat.le_zero.mp hm
        obtain rfl : i = j := hij
        exact hexplored.subset i hi
  | succ n ih =>
    rw [upTo_succ, hexplored.seen_or_reaches_succ h]
    split
    · rename_i hnone
      simp [hnone, Reaches]
    · exact ih (hexplored.next h)

theorem testBit_upTo_self (h : Goes go r) (n start j : Nat) :
    (upTo go n start start).testBit j = true ↔ Reaches r n start j := by
  rw [testBit_upTo h (explored_self start), or_iff_right_iff_imp]
  exact fun hj => ⟨0, Nat.zero_le n, j, hj, rfl⟩

end Explored

/-! ## Plans -/

/-- An upper limit below the lower one counts as the lower one. -/
theorem goes_loop {p : Plan} (h : Goes (ends length p) r) (hforward : Forward length r) (least : Nat)
    (most : Option Nat) :
    Goes (ends length (.loop least most p)) fun i j =>
      ∃ n, least ≤ n ∧ (∀ m ∈ most, n ≤ max least m) ∧ Steps r n i j := by
  intro places j
  have hstart := goes_again h least places
  rw [ends]
  generalize again (ends length p) least places = start at hstart
  have hfound : (if start = 0 then 0 else
      upTo (ends length p) ((most.map (· - least)).getD (length + 1)) start start).testBit j = true ↔
        Reaches r ((most.map (· - least)).getD (length + 1)) start j := by
    split
    · rename_i hempty
      simp [hempty, Reaches]
    · exact testBit_upTo_self h _ start j
  rw [hfound]
  constructor
  · rintro ⟨m, hm, k, hk, hkj⟩
    obtain ⟨i, hi, hik⟩ := (hstart k).mp hk
    refine ⟨i, hi, least + m, Nat.le_add_right _ _, ?_, steps_add.mpr ⟨k, hik, hkj⟩⟩
    rintro limit rfl
    rw [Option.map_some, Option.getD_some] at hm
    omega
  · rintro ⟨i, hi, n, hn, hmost, hij⟩
    obtain ⟨m, rfl⟩ := Nat.exists_eq_add_of_le hn
    obtain ⟨k, hik, hkj⟩ := steps_add.mp hij
    have hk := (hstart k).mpr ⟨i, hi, hik⟩
    cases most with
    | none =>
      obtain ⟨m', hm', hkj'⟩ := steps_within hforward hkj
      exact ⟨m', Nat.le_succ_of_le hm', k, hk, hkj'⟩
    | some limit =>
      have hlimit := hmost limit rfl
      refine ⟨m, ?_, k, hk, hkj⟩
      rw [Option.map_some, Option.getD_some]
      omega

theorem goes_step {before : Nat} :
    Goes (ends length (.step before)) fun i j => before.testBit i = true ∧ j = i + 1 := by
  intro places j
  rw [ends, Nat.testBit_shiftLeft]
  cases j with
  | zero => simp
  | succ j => simp

theorem goes_check {at' : Nat} :
    Goes (ends length (.check at')) fun i j => at'.testBit i = true ∧ i = j := by
  intro places j
  simp [ends]

theorem goes_inOrder_nil : Goes (endsInOrder length []) fun i j => i = j := by
  intro places j
  simp [endsInOrder]

theorem goes_inOrder_cons {p : Plan} {rest : List Plan} {q : Nat → Nat → Prop}
    (h : Goes (ends length p) r) (hrest : Goes (endsInOrder length rest) q) :
    Goes (endsInOrder length (p :: rest)) fun i j => ∃ k, r i k ∧ q k j := by
  intro places j
  have hnext := h places
  rw [endsInOrder]
  generalize ends length p places = next at hnext
  have hfound : (if next = 0 then 0 else endsInOrder length rest next).testBit j = true ↔
      ∃ k, next.testBit k = true ∧ q k j := by
    split
    · rename_i hempty
      simp [hempty]
    · exact hrest next j
  rw [hfound]
  constructor
  · rintro ⟨k, hk, hkj⟩
    obtain ⟨i, hi, hik⟩ := (hnext k).mp hk
    exact ⟨i, hi, k, hik, hkj⟩
  · rintro ⟨i, hi, k, hik, hkj⟩
    exact ⟨k, (hnext k).mpr ⟨i, hi, hik⟩, hkj⟩

theorem goes_of_nil : Goes (endsOf length []) fun _ _ => False := by
  intro places j
  simp [endsOf]

theorem goes_of_cons {p : Plan} {rest : List Plan} {q : Nat → Nat → Prop}
    (h : Goes (ends length p) r) (hrest : Goes (endsOf length rest) q) :
    Goes (endsOf length (p :: rest)) fun i j => r i j ∨ q i j := by
  intro places j
  rw [endsOf, Nat.testBit_or, Bool.or_eq_true, h, hrest, ← exists_or]
  simp only [and_or_left]

end Plan

/-! ## What expressions match -/

def around (text : List Char) (i : Nat) : Option Char × Option Char :=
  (if i = 0 then none else text[i - 1]?, text[i]?)

namespace Expression

mutual

/-- The expression matches what stands in a text between the places `i` and `j`. -/
def Spans (text : List Char) : Expression → Nat → Nat → Prop
  | .empty, i, j => i = j
  | .literal chars, i, j => chars <+: text.drop i ∧ j = i + chars.length
  | .one s, i, j => (∃ c, text[i]? = some c ∧ s.contains c = true) ∧ j = i + 1
  | .place a unicode crlf, i, j =>
    (i ≤ text.length ∧
      a.holds (Shorthand.word.chars unicode).contains crlf (around text i) = true) ∧ i = j
  | .loop least most e, i, j =>
    ∃ n, least ≤ n ∧ (∀ m ∈ most, n ≤ max least m) ∧ Steps (Spans text e) n i j
  | .capture e, i, j => Spans text e i j
  | .inOrder l, i, j => SpansInOrder text l i j
  | .oneOf l, i, j => SpansOneOf text l i j

def SpansInOrder (text : List Char) : List Expression → Nat → Nat → Prop
  | [], i, j => i = j
  | e :: rest, i, j => ∃ k, Spans text e i k ∧ SpansInOrder text rest k j

def SpansOneOf (text : List Char) : List Expression → Nat → Nat → Prop
  | [], _, _ => False
  | e :: rest, i, j => Spans text e i j ∨ SpansOneOf text rest i j

end

def Matches (e : Expression) (text : String) : Prop :=
  ∃ i j, i ≤ j ∧ j ≤ text.toList.length ∧ e.Spans text.toList i j

variable {text : List Char}

mutual

theorem forward_spans (e : Expression) : Forward text.length (Spans text e) := by
  cases e with
  | empty => exact fun i j h => .inl h
  | literal chars =>
    rintro i j ⟨hstart, rfl⟩
    have hlength := hstart.length_le
    rw [List.length_drop] at hlength
    omega
  | one s =>
    rintro i j ⟨⟨c, hc, -⟩, rfl⟩
    have hlt := (List.getElem?_eq_some_iff.mp hc).1
    omega
  | place a unicode crlf => exact fun i j h => .inl h.2
  | loop least most e =>
    rintro i j ⟨n, -, -, h⟩
    exact forward_steps (forward_spans e) n i j h
  | capture e => exact forward_spans e
  | inOrder l => exact forward_spansInOrder l
  | oneOf l => exact forward_spansOneOf l

theorem forward_spansInOrder (l : List Expression) : Forward text.length (SpansInOrder text l) := by
  cases l with
  | nil => exact fun i j h => .inl h
  | cons e rest =>
    rintro i j ⟨k, hik, hkj⟩
    have hfirst := forward_spans e i k hik
    have hrest := forward_spansInOrder rest k j hkj
    omega

theorem forward_spansOneOf (l : List Expression) : Forward text.length (SpansOneOf text l) := by
  cases l with
  | nil => exact fun i j h => h.elim
  | cons e rest =>
    rintro i j (h | h)
    · exact forward_spans e i j h
    · exact forward_spansOneOf rest i j h

end

/-! ## The search is right -/

theorem surroundings_eq_some_iff {i : Nat} {p : Option Char × Option Char} :
    (surroundings text)[i]? = some p ↔ i ≤ text.length ∧ p = around text i := by
  unfold surroundings around
  rw [List.getElem?_zip_eq_some]
  obtain ⟨before, after⟩ := p
  have hafter : (text.map some ++ [none])[i]? = some after ↔ i ≤ text.length ∧ after = text[i]? := by
    rcases Nat.lt_trichotomy i text.length with hlt | rfl | hgt
    · rw [List.getElem?_append_left (by simpa using hlt), List.getElem?_map,
        List.getElem?_eq_getElem hlt]
      simp [Nat.le_of_lt hlt, eq_comm]
    · simp [eq_comm]
    · rw [List.getElem?_eq_none (by simpa [Nat.succ_le_iff] using hgt)]
      simp [Nat.not_le.mpr hgt]
  rw [hafter]
  cases i with
  | zero => simp [eq_comm]
  | succ i =>
    simp only [List.getElem?_cons_succ, List.getElem?_map, Prod.mk.injEq, Nat.succ_ne_zero, if_false,
      Nat.succ_sub_one]
    constructor
    · rintro ⟨hbefore, hle, hafter⟩
      rw [List.getElem?_eq_getElem hle] at hbefore ⊢
      exact ⟨hle, (Option.some.inj hbefore).symm, hafter⟩
    · rintro ⟨hle, rfl, hafter⟩
      rw [List.getElem?_eq_getElem hle]
      exact ⟨rfl, hle, hafter⟩

theorem testBit_placesBefore (set : Text.Ranges) (i : Nat) :
    (placesBefore set text).testBit i = true ↔ ∃ c, text[i]? = some c ∧ set.contains c = true := by
  rw [placesBefore, testBit_placesOf, List.getElem?_map, Option.map_eq_some_iff]

theorem holds_congr {a : Assertion} (h : a.isAboutWords = false) (isWord other : Char → Bool)
    (crlf : Bool) : a.holds isWord crlf = a.holds other crlf := by
  cases a <;> first | rfl | cases h

theorem testBit_placesWhere (a : Assertion) (unicode crlf : Bool) (i : Nat) :
    (placesWhere a unicode crlf text).testBit i = true ↔ i ≤ text.length ∧
      a.holds (Shorthand.word.chars unicode).contains crlf (around text i) = true := by
  rw [placesWhere, testBit_placesOf, List.getElem?_map, Option.map_eq_some_iff]
  simp only [surroundings_eq_some_iff]
  constructor
  · rintro ⟨p, ⟨hle, rfl⟩, hholds⟩
    cases hwords : a.isAboutWords with
    | true => exact ⟨hle, by simpa [hwords] using hholds⟩
    | false => exact ⟨hle, by rw [← hholds, holds_congr hwords]⟩
  · rintro ⟨hle, hholds⟩
    refine ⟨_, ⟨hle, rfl⟩, ?_⟩
    cases hwords : a.isAboutWords with
    | true => simpa [hwords] using hholds
    | false => rw [← hholds, holds_congr hwords]

theorem cons_prefix_drop_iff {c : Char} {chars : List Char} {i : Nat} :
    c :: chars <+: text.drop i ↔ text[i]? = some c ∧ chars <+: text.drop (i + 1) := by
  by_cases hi : i < text.length
  · rw [List.drop_eq_getElem_cons hi, List.cons_prefix_cons, List.getElem?_eq_getElem hi,
      Option.some.injEq, eq_comm]
  · rw [List.drop_eq_nil_of_le (Nat.not_lt.mp hi), List.getElem?_eq_none (Nat.not_lt.mp hi)]
    simp

theorem contains_only_iff {c d : Char} :
    Text.Ranges.contains [(c.toNat, c.toNat)] d = true ↔ d = c := by
  simp only [Text.Ranges.contains_eq_true_iff, List.mem_singleton, exists_eq_left]
  constructor
  · rintro ⟨hge, hle⟩
    exact Char.toNat_inj.mp (Nat.le_antisymm hle hge)
  · rintro rfl
    exact ⟨Nat.le_refl _, Nat.le_refl _⟩

theorem goes_literal (length : Nat) (chars : List Char) :
    Goes (Plan.endsInOrder length
      (chars.map fun c => Plan.step (placesBefore [(c.toNat, c.toNat)] text)))
      (Spans text (.literal chars)) := by
  induction chars with
  | nil =>
    intro places j
    rw [List.map_nil, Plan.goes_inOrder_nil]
    simp only [Spans, List.nil_prefix, true_and, List.length_nil, Nat.add_zero, @eq_comm Nat j]
  | cons c chars ih =>
    intro places j
    rw [List.map_cons, Plan.goes_inOrder_cons Plan.goes_step ih]
    refine exists_congr fun i => and_congr_right fun _ => ?_
    simp only [testBit_placesBefore, contains_only_iff, exists_eq_right, Spans,
      cons_prefix_drop_iff, List.length_cons]
    constructor
    · rintro ⟨k, ⟨hc, rfl⟩, hstart, rfl⟩
      exact ⟨⟨hc, hstart⟩, by omega⟩
    · rintro ⟨⟨hc, hstart⟩, rfl⟩
      exact ⟨i + 1, ⟨hc, rfl⟩, hstart, by omega⟩

mutual

theorem goes_ofExpression (e : Expression) :
    Goes (Plan.ends text.length (Plan.ofExpression text e)) (Spans text e) := by
  cases e with
  | empty => exact @Plan.goes_inOrder_nil text.length
  | literal chars => exact goes_literal text.length chars
  | one set =>
    intro places j
    rw [Plan.ofExpression, Plan.goes_step]
    simp only [testBit_placesBefore, Spans]
  | place a unicode crlf =>
    intro places j
    rw [Plan.ofExpression, Plan.goes_check]
    simp only [testBit_placesWhere, Spans]
  | loop least most e => exact Plan.goes_loop (goes_ofExpression e) (forward_spans e) least most
  | capture e => exact goes_ofExpression e
  | inOrder l => exact goes_ofAll_inOrder l
  | oneOf l => exact goes_ofAll_oneOf l

theorem goes_ofAll_inOrder (l : List Expression) :
    Goes (Plan.endsInOrder text.length (Plan.ofAll text l)) (SpansInOrder text l) := by
  cases l with
  | nil => exact Plan.goes_inOrder_nil
  | cons e rest => exact Plan.goes_inOrder_cons (goes_ofExpression e) (goes_ofAll_inOrder rest)

theorem goes_ofAll_oneOf (l : List Expression) :
    Goes (Plan.endsOf text.length (Plan.ofAll text l)) (SpansOneOf text l) := by
  cases l with
  | nil => exact Plan.goes_of_nil
  | cons e rest => exact Plan.goes_of_cons (goes_ofExpression e) (goes_ofAll_oneOf rest)

end

/-- The search finds a match exactly when some part of the text matches. -/
theorem isFoundIn_iff (e : Expression) (s : String) : e.isFoundIn s = true ↔ e.Matches s := by
  have hall : ∀ i, (placesOf ((surroundings s.toList).map fun _ => true)).testBit i = true ↔
      i ≤ s.toList.length := by
    intro i
    rw [testBit_placesOf, List.getElem?_map, Option.map_eq_some_iff]
    simp only [surroundings_eq_some_iff]
    simp
  unfold isFoundIn Matches
  have hgoes : Goes (Plan.ends s.toList.length (Plan.ofExpression s.toList e)) (Spans s.toList e) :=
    goes_ofExpression e
  simp only [bne_iff_ne, ne_eq]
  constructor
  · intro hne
    obtain ⟨j, hj⟩ := Nat.exists_testBit_of_ne_zero hne
    obtain ⟨i, hi, hspans⟩ := (hgoes _ j).mp hj
    have hle := (hall i).mp hi
    have hforward := forward_spans e i j hspans
    exact ⟨i, j, by omega, by omega, hspans⟩
  · rintro ⟨i, j, hij, hj, hspans⟩ hzero
    have hbit := (hgoes _ j).mpr ⟨i, (hall i).mpr (by omega), hspans⟩
    rw [hzero] at hbit
    simp at hbit

end Expression

end DesignLint.Format
