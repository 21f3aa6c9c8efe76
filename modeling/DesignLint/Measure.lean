import DesignLint.Fault

/-! # Measures -/

namespace DesignLint

structure Size where
  width : Float
  height : Float

/-- The size that a text such as `375x812` gives: two floats around exactly one `x`. -/
def Size.parse (s : String) : Except Fault Size :=
  match s.toList.splitOn 'x' with
  | [w, h] =>
    match Number.parseFloat? (String.ofList w), Number.parseFloat? (String.ofList h) with
    | some width, some height => .ok ⟨width, height⟩
    | _, _ => .error (.size s)
  | _ => .error (.size s)

def Size.ofJson (v : Json) : Except Fault Size :=
  match v with
  | .str s => parse s
  | _ => .error (.lacking v.typeName "split")

namespace Measure

/-- A float without a point when it is a whole number. -/
def ofFloat (x : Float) : String :=
  match Number.wholeOf? x with
  | some n => toString n
  | none => Number.floatText x

/-- Any value written as a measure. A text that is a whole number has to be spelled as one. -/
def ofJson (v : Json) : Except Fault String :=
  match v with
  | .num (.float x) => .ok (ofFloat x)
  | .num (.whole n) => match Number.nearest? n with
    | some _ => .ok (toString n)
    | none => .error .hugeWhole
  | .bool b => .ok (if b then "1" else "0")
  | .str s => match Number.parseFloat? s with
    | none => .error (.floatForm s)
    | some x => match Number.wholeOf? x with
      | none => .ok s
      | some _ => match Number.parseWhole s with
        | .ok n => .ok (toString n)
        | .error f => .error (.wholeForm f)
  | _ => .error (.misuse (.noNumber v.typeName))

end Measure

/-- The family in the name of a font: what stands before its first dash. -/
def fontFamily (name : String) : String := String.ofList (name.toList.takeWhile (· ≠ '-'))

def fontFamilyOf (v : Json) : Except Fault String :=
  match v with
  | .str s => .ok (fontFamily s)
  | _ => .error (.lacking v.typeName "split")

/-- The weight in the name of a font: what stands between its first dash and the next one. -/
def fontWeight? (name : String) : Option String := (name.toList.splitOn '-')[1]?.map String.ofList

end DesignLint
