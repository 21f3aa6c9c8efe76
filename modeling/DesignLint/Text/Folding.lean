import DesignLint.Text.Case

/-! # Comparing without case -/

namespace DesignLint.Text

/-- Small letters that share their upper case. -/
def sharedCapitals : List (List Nat) := [
  [0x69, 0x131], [0x73, 0x17f], [0xb5, 0x3bc], [0x345, 0x3b9, 0x1fbe], [0x390, 0x1fd3],
  [0x3b0, 0x1fe3], [0x3b2, 0x3d0], [0x3b5, 0x3f5], [0x3b8, 0x3d1], [0x3ba, 0x3f0], [0x3c0, 0x3d6],
  [0x3c1, 0x3f1], [0x3c2, 0x3c3], [0x3c6, 0x3d5], [0x432, 0x1c80], [0x434, 0x1c81], [0x43e, 0x1c82],
  [0x441, 0x1c83], [0x442, 0x1c84, 0x1c85], [0x44a, 0x1c86], [0x463, 0x1c87], [0x1c88, 0xa64b],
  [0x1e61, 0x1e9b], [0xfb05, 0xfb06]]

/-- The small letters that equal the small letter `c` without case, `c` among them. -/
def smallVariants (c : Nat) : List Nat :=
  (sharedCapitals.find? (·.contains c)).getD [c]

def capitalsOf (c : Nat) : List Nat :=
  (if c = 0x69 then [0x130] else []) ++ lowerRuns.filterMap fun r =>
    let n := ((c : Int) - r.shift).toNat
    if r.holds n then some n else none

/-- The letters that equal `c` without case, `c` among them. -/
def variants (c : Char) : List Nat :=
  (smallVariants (lowerChar c).toNat).flatMap fun n => n :: capitalsOf n

/-- The variants of `c` within ASCII, or `c` alone. -/
def asciiVariants (c : Char) : List Nat :=
  if c.toNat < 0x80 then [c.toLower.toNat, c.toUpper.toNat] else [c.toNat]

end DesignLint.Text
