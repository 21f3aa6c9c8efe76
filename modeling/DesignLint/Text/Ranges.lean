/-! # Sets of characters as ranges of code points -/

namespace DesignLint.Text

/-- A set of characters: inclusive ranges of code points. -/
abbrev Ranges := List (Nat × Nat)

namespace Ranges

def hasCode (rs : Ranges) (n : Nat) : Bool := rs.any fun r => r.1 ≤ n && n ≤ r.2

def contains (rs : Ranges) (c : Char) : Bool := rs.hasCode c.toNat

theorem hasCode_eq_true_iff {rs : Ranges} {n : Nat} :
    rs.hasCode n = true ↔ ∃ r ∈ rs, r.1 ≤ n ∧ n ≤ r.2 := by
  simp [hasCode]

theorem contains_eq_true_iff {rs : Ranges} {c : Char} :
    rs.contains c = true ↔ ∃ r ∈ rs, r.1 ≤ c.toNat ∧ c.toNat ≤ r.2 :=
  hasCode_eq_true_iff

/-! ## Operations on sets -/

def lastCode : Nat := 0x10FFFF

/-- The code points that are no characters. -/
def surrogates : Nat × Nat := (0xD800, 0xDFFF)

/-- Ranges in order, with those that touch made one. -/
def joined : Ranges → Ranges
  | (a, b) :: (c, d) :: rest =>
    if c ≤ b + 1 then joined ((a, max b d) :: rest) else (a, b) :: joined ((c, d) :: rest)
  | rs => rs
termination_by rs => rs.length

/-- The same set with its ranges in order and apart. -/
def normal (rs : Ranges) : Ranges := joined (rs.mergeSort fun r s => r.1 ≤ s.1)

/-- What ordered ranges leave out from `next` on. -/
def gaps (next : Nat) : Ranges → Ranges
  | [] => if next ≤ lastCode then [(next, lastCode)] else []
  | (a, b) :: rest =>
    let after := gaps (max next (b + 1)) rest
    if next < a then (next, a - 1) :: after else after

def complement (rs : Ranges) : Ranges := gaps 0 (normal (surrogates :: rs))

def union (rs ss : Ranges) : Ranges := rs ++ ss

def inter (rs ss : Ranges) : Ranges := complement (union (complement rs) (complement ss))

def without (rs ss : Ranges) : Ranges := complement (union (complement rs) ss)

def symmetric (rs ss : Ranges) : Ranges := without (union rs ss) (inter rs ss)

end Ranges

end DesignLint.Text
