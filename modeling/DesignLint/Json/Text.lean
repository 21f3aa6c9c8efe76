import DesignLint.Json.Value

/-! # Writing JSON text -/

namespace DesignLint.Json

def hexDigit (n : Nat) : Char :=
  if n < 10 then Char.ofNat ('0'.toNat + n) else Char.ofNat ('a'.toNat + (n - 10))

def unitEscape (n : Nat) : List Char :=
  ['\\', 'u', hexDigit (n / 4096 % 16), hexDigit (n / 256 % 16), hexDigit (n / 16 % 16),
    hexDigit (n % 16)]

/-- The escape of any character: two code units above the first 65536 characters. -/
def codeEscape (c : Char) : List Char :=
  let n := c.toNat
  if n < 0x10000 then unitEscape n
  else
    let m := n - 0x10000
    unitEscape (0xd800 + m / 1024) ++ unitEscape (0xdc00 + m % 1024)

def shortEscapes : List (Char × Char) := [
  ('"', '"'), ('\\', '\\'), ('\n', 'n'), ('\r', 'r'), ('\t', 't'), ('\x0c', 'f'), ('\x08', 'b')]

def charText (c : Char) : List Char :=
  match shortEscapes.lookup c with
  | some e => ['\\', e]
  | none => if ' ' ≤ c && c ≤ '~' then [c] else codeEscape c

def stringText (s : String) : String :=
  "\"" ++ String.ofList (s.toList.flatMap charText) ++ "\""

/-- A number; the special floats are words. -/
def numberText : Number → String
  | .whole n => toString n
  | .float x =>
    if x.isNaN then "NaN"
    else if x.isInf then (if x < 0 then "-Infinity" else "Infinity")
    else Number.floatText x

mutual

def text : Json → String
  | null => "null"
  | bool true => "true"
  | bool false => "false"
  | num n => numberText n
  | str s => stringText s
  | arr items => "[" ++ ", ".intercalate (itemTexts items) ++ "]"
  | obj fields => "\x7b" ++ ", ".intercalate (memberTexts fields) ++ "\x7d"

def itemTexts : List Json → List String
  | [] => []
  | v :: rest => text v :: itemTexts rest

def memberTexts : List (String × Json) → List String
  | [] => []
  | (k, v) :: rest => (stringText k ++ ": " ++ text v) :: memberTexts rest

end

mutual

def sorted : Json → Json
  | arr items => arr (sortedAll items)
  | obj fields => obj ((sortedFields fields).mergeSort fun a b => decide (a.1 ≤ b.1))
  | v => v

def sortedAll : List Json → List Json
  | [] => []
  | v :: rest => sorted v :: sortedAll rest

def sortedFields : List (String × Json) → List (String × Json)
  | [] => []
  | (k, v) :: rest => (k, sorted v) :: sortedFields rest

end

/-- A value as the key of an object; one that is no text stands as it is written. -/
def keyText (v : Json) : String :=
  match v with
  | str s => s
  | _ => v.text

end DesignLint.Json
