import DesignLint.Number.Basic

/-!
# The shortest decimal of a float

The digits are searched for on ever finer decimal grids, and each candidate is read back.
-/

namespace DesignLint.Number

/-- The decimal `digits × 10^power`, without a trailing zero unless it is zero. -/
structure Decimal where
  digits : Nat
  power : Int
  deriving DecidableEq

namespace Decimal

def toFloat (d : Decimal) : Float := ofDecimal false d.digits d.power

def readsBack (d : Decimal) (x : Float) : Bool := d.toFloat.toBits == x.toBits

/-- `digits × 10^power` with the trailing zeros moved into the power; at most `fuel` of them. -/
def trim : Nat → Nat → Int → Decimal
  | 0, digits, power => ⟨digits, power⟩
  | fuel + 1, digits, power =>
    if digits ≠ 0 ∧ digits % 10 = 0 then trim fuel (digits / 10) (power + 1) else ⟨digits, power⟩

def digitList (d : Decimal) : List Char := Nat.toDigits 10 d.digits

/-- The power of ten of the first digit. -/
def leadingPower (d : Decimal) : Int := d.power + d.digitList.length - 1

end Decimal

structure Ratio where
  num : Nat
  den : Nat

namespace Ratio

/-- `m × 2^e`. -/
def ofBinary (m : Nat) (e : Int) : Ratio :=
  if 0 ≤ e then ⟨m * Nat.pow 2 e.toNat, 1⟩ else ⟨m, Nat.pow 2 (-e).toNat⟩

/-- `r / 10^power`. -/
def shift (r : Ratio) (power : Int) : Ratio :=
  if 0 ≤ power then ⟨r.num, r.den * Nat.pow 10 power.toNat⟩
  else ⟨r.num * Nat.pow 10 (-power).toNat, r.den⟩

/-- More decimal places than the first digit of any float is away from the point. -/
def farPlaces : Nat := 350

/-- The number of digits before the point; zero or less when the value is below one. -/
def wholeDigits (r : Ratio) : Int :=
  ((Nat.toDigits 10 (r.num * Nat.pow 10 farPlaces / r.den)).length : Int) - farPlaces

/-- The two multiples of `10^power` around `r`, the nearer one first and of two equally near ones
the even one. -/
def neighbours (r : Ratio) (power : Int) : List Decimal :=
  let s := r.shift power
  let low := s.num / s.den
  let rest := s.num % s.den
  if 2 * rest < s.den ∨ (2 * rest = s.den ∧ low % 2 = 0) then [⟨low, power⟩, ⟨low + 1, power⟩]
  else [⟨low + 1, power⟩, ⟨low, power⟩]

end Ratio

/-- The most digits that a float needs to be read back. -/
def enoughDigits : Nat := 17

/-- `m × 2^e` written out in full. -/
def exactDecimal (m : Nat) (e : Int) : Decimal :=
  if 0 ≤ e then ⟨m * Nat.pow 2 e.toNat, 0⟩ else ⟨m * Nat.pow 5 (-e).toNat, e⟩

/-- The shortest decimal that reads back as the positive float `x`, which is `m × 2^e`. -/
def shortest (x : Float) (m : Nat) (e : Int) : Decimal :=
  let value := Ratio.ofBinary m e
  let whole := value.wholeDigits
  let found := (List.range enoughDigits).findSome? fun (n : Nat) =>
    (value.neighbours (whole - ((n : Int) + 1))).find? (·.readsBack x)
  let d := found.getD (exactDecimal m e)
  Decimal.trim d.digitList.length d.digits d.power

end DesignLint.Number
