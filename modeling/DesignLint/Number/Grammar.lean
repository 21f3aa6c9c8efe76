import DesignLint.Number.Basic
import DesignLint.Text.Blank

/-! # Numbers in text -/

namespace DesignLint.Number

def natOfDigits (ds : List Char) : Nat := ds.foldl (fun n d => n * 10 + (d.toNat - 48)) 0

/-- The most digits of a whole number in a text. -/
def digitLimit : Nat := 4300

def excessText (count : Nat) : String :=
  "Exceeds the limit (" ++ toString digitLimit ++
    " digits) for integer string conversion: value has " ++ toString count ++
    " digits; use sys.set_int_max_str_digits() to increase the limit"

/-- A sign in front, if there is one, and the rest; true for a minus. -/
def splitSign : List Char → Bool × List Char
  | '-' :: rest => (true, rest)
  | '+' :: rest => (false, rest)
  | s => (false, s)

def specialWords : List (String × Float) :=
  [("inf", infinity), ("infinity", infinity), ("nan", undefined)]

/-- The special float that `s` names in any case. -/
def special? (s : List Char) : Option Float :=
  (specialWords.find? fun w => w.1.toList == s.map Char.toLower).map (·.2)

/-- The exponent that `s` is: nothing at all, or a sign and digits after an `e`. -/
def exponent? (s : List Char) : Option Int :=
  match s with
  | [] => some 0
  | e :: rest =>
    let (negative, ds) := splitSign rest
    if (e = 'e' ∨ e = 'E') ∧ ds ≠ [] ∧ ds.all Char.isDigit then
      some (if negative then -(natOfDigits ds : Int) else natOfDigits ds)
    else none

/-- The unsigned decimal that `s` is: digits around an optional point, then an exponent. -/
def decimal? (s : List Char) : Option (Nat × Int) :=
  let before := s.takeWhile Char.isDigit
  let afterWhole := s.dropWhile Char.isDigit
  let rest := match afterWhole with
    | '.' :: more => more
    | more => more
  let fraction := if afterWhole.head? == some '.' then rest.takeWhile Char.isDigit else []
  if before.isEmpty && fraction.isEmpty then none
  else (exponent? (rest.drop fraction.length)).map fun power =>
    (natOfDigits (before ++ fraction), power - fraction.length)

def spelledFloat? (s : List Char) : Option Float :=
  let (negative, rest) := splitSign s
  match special? rest with
  | some x => some (if negative then -x else x)
  | none => (decimal? rest).map fun d => ofDecimal negative d.1 d.2

/-- `s` without its underscores, which may stand between two digits only; `before` is the character
in front of `s`. -/
def joinDigits? (before : Option Char) : List Char → Option (List Char)
  | [] => if before == some '_' then none else some []
  | c :: rest =>
    let digitBefore := (before.map Char.isDigit).getD false
    if c = '_' then if digitBefore then joinDigits? (some c) rest else none
    else if before == some '_' && !c.isDigit then none
    else (joinDigits? (some c) rest).map (c :: ·)

/-- `s` without its underscores, of which there is at least one and which stand apart from each
other inside it. -/
def joinWords? (s : List Char) : Option (List Char) :=
  let apart := (s.zip (s.drop 1)).all fun p => !(p.1 = '_' && p.2 = '_')
  if s.contains '_' && s.head? != some '_' && s.getLast? != some '_' && apart
  then some (s.filter (· ≠ '_')) else none

end DesignLint.Number
