/-! # Numbers -/

namespace DesignLint

inductive Number
  | whole (n : Int)
  | float (x : Float)

namespace Number

def infinity : Float := Float.ofBits 0x7ff0000000000000

/-- The float that is no number. -/
def undefined : Float := Float.ofBits 0x7ff8000000000000

/-- The greatest magnitude up to which every whole number is a float. -/
def exactLimit : Nat := 0x20000000000000

/-- `±(digits × 10^power)`, rounded to the nearest float. -/
def ofDecimal (negative : Bool) (digits : Nat) (power : Int) : Float :=
  let x := Float.ofScientific digits (power < 0) power.natAbs
  if negative then -x else x

/-- The float nearest to `n`; infinite when `n` is too large for one. -/
def nearest (n : Int) : Float := ofDecimal (n < 0) n.natAbs 0

def nearest? (n : Int) : Option Float :=
  if (nearest n).isFinite then some (nearest n) else none

def wholeOf? (x : Float) : Option Int :=
  match x.toModel.unpack with
  | .zero _ => some 0
  | .finite s m e _ =>
    let sign (n : Nat) : Int := match s with
      | .negative => -n
      | .positive => n
    if 0 ≤ e then some (sign (m * Nat.pow 2 e.toNat))
    else if m % Nat.pow 2 (-e).toNat = 0 then some (sign (m / Nat.pow 2 (-e).toNat))
    else none
  | .infinity _ => none
  | .notANumber => none

/-- The greatest whole number that is not above the finite float `x`. -/
def floorOf? (x : Float) : Option Int :=
  match x.toModel.unpack with
  | .zero _ => some 0
  | .finite s m e _ =>
    let signed : Int := match s with
      | .negative => -m
      | .positive => m
    if 0 ≤ e then some (signed * (Nat.pow 2 e.toNat : Nat))
    else some (signed.fdiv (Nat.pow 2 (-e).toNat : Nat))
  | .infinity _ => none
  | .notANumber => none

/-- Whether the float `x` is less than the whole number `n`, compared exactly. -/
def floatBelow (x : Float) (n : Int) : Bool :=
  match floorOf? x with
  | some k => k < n
  | none => x < 0

def below (x : Float) : Number → Bool
  | whole n => floatBelow x n
  | float y => x < y

/-- The number as a float; a whole number is rounded. -/
def toFloat : Number → Float
  | whole n => nearest n
  | float x => x

/-- Whether two numbers have the same value, compared exactly. -/
def equals : Number → Number → Bool
  | whole n, whole m => n == m
  | whole n, float y => wholeOf? y == some n
  | float x, whole m => wholeOf? x == some m
  | float x, float y => x == y

def isNegative : Number → Bool
  | whole n => n < 0
  | float x => x < 0

def isNonzero : Number → Bool
  | whole n => n != 0
  | float x => !(x == 0)

end Number

end DesignLint
