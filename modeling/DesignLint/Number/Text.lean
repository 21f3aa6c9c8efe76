import DesignLint.Number.Shortest

/-! # How numbers are written -/

namespace DesignLint.Number

/-- The decisions that turn the digits of a float into text. -/
structure Manner where
  /-- The powers of the first digit from which on an exponent is written, below and above. -/
  exponents : Option (Int × Int)
  /-- What follows the last digit of a float that is a whole number. -/
  wholeTail : String
  undefined : String

/-- Values: an exponent below `10^-4` and from `10^16` on. -/
def valueManner : Manner := ⟨some (-4, 16), ".0", "nan"⟩

/-- Bounds of options: never an exponent. -/
def boundManner : Manner := ⟨none, "", "NaN"⟩

namespace Manner

/-- The exponent with its sign and at least two digits. -/
def exponentText (power : Int) : String :=
  let digits := toString power.natAbs
  (if power < 0 then "-" else "+") ++ (if power.natAbs < 10 then "0" ++ digits else digits)

/-- One digit, a point, the other digits and the exponent. -/
def exponential (d : Decimal) : String :=
  match d.digitList with
  | [] => ""
  | c :: rest =>
    String.ofList (if rest.isEmpty then [c] else c :: '.' :: rest) ++ "e" ++
      exponentText d.leadingPower

def positional (manner : Manner) (d : Decimal) : String :=
  let ds := d.digitList
  if 0 ≤ d.power then
    String.ofList (ds ++ List.replicate d.power.toNat '0') ++ manner.wholeTail
  else if 0 ≤ d.leadingPower then
    let before := (d.leadingPower + 1).toNat
    String.ofList (ds.take before ++ '.' :: ds.drop before)
  else
    String.ofList ('0' :: '.' :: List.replicate (-d.leadingPower - 1).toNat '0' ++ ds)

def decimalText (manner : Manner) (d : Decimal) : String :=
  match manner.exponents with
  | some (least, greatest) =>
    if d.leadingPower < least ∨ greatest ≤ d.leadingPower then exponential d
    else manner.positional d
  | none => manner.positional d

def floatText (manner : Manner) (x : Float) : String :=
  match x.toModel.unpack with
  | .notANumber => manner.undefined
  | .infinity s => signed s "inf"
  | .zero s => signed s ("0" ++ manner.wholeTail)
  | .finite s m e _ =>
    signed s (manner.decimalText (shortest (match s with | .negative => -x | .positive => x) m e))
where
  signed (s : Float.Model.UnpackedFloat.Sign) (text : String) : String :=
    match s with
    | .negative => "-" ++ text
    | .positive => text

end Manner

def floatText (x : Float) : String := valueManner.floatText x

def text : Number → String
  | whole n => toString n
  | float x => floatText x

def boundText : Number → String
  | whole n => toString n
  | float x => boundManner.floatText x

end DesignLint.Number
