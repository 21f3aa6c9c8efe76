import DesignLint.Number.Grammar
import DesignLint.Text.Letters
import DesignLint.Text.Quoted

/-! # Reading numbers -/

namespace DesignLint.Number

/-! ## Numbers of any script -/

def isAsciiBlank (c : Char) : Bool := c = ' ' || (9 ≤ c.toNat && c.toNat ≤ 13)

/-- A digit of any script as ASCII, a blank beyond ASCII as a space, and any other character beyond
ASCII as a mark that no number has. -/
def asciiForm (c : Char) : Char :=
  if c.toNat < 0x80 then c
  else if Text.isBlank c then ' '
  else match Text.decimalValue? c with
    | some n => Nat.digitChar n
    | none => '?'

def parseFloat? (s : String) : Option Float :=
  (joinDigits? none (Text.trimBy isAsciiBlank (s.toList.map asciiForm))).bind spelledFloat?

inductive WholeFault
  | form (text : String)
  | size (digits : Nat)

/-- The most characters of a text that are shown when it is no whole number. -/
def shownLength : Nat := 200

def WholeFault.text : WholeFault → String
  | form text =>
    "invalid literal for int() with base 10: " ++
      String.ofList ((Text.quotedChars text.toList).take shownLength)
  | size digits => excessText digits

/-- The whole number that `s` spells between blanks. Too many digits are noticed before whatever
follows them. -/
def parseWhole (s : String) : Except WholeFault Int :=
  let (negative, rest) := splitSign (Text.trimBy isAsciiBlank (s.toList.map asciiForm))
  let run := rest.takeWhile fun c => c.isDigit || c = '_'
  match joinDigits? none run with
  | none => .error (.form s)
  | some ds =>
    if digitLimit < ds.length then .error (.size ds.length)
    else if ds.isEmpty || run.length < rest.length then .error (.form s)
    else .ok (if negative then -(natOfDigits ds : Int) else natOfDigits ds)

/-! ## Lenient fields -/

/-- The float of a text field: between white space, or with underscores but then without space. -/
def lenientFloat? (s : String) : Option Float :=
  match spelledFloat? (Text.trimBy Text.isWhiteSpace s.toList) with
  | some x => some x
  | none => (joinWords? s.toList).bind spelledFloat?

/-- The whole number that `s` starts with, after no more than a minus and without padding, and what
follows it; `none` for another text, `some none` for more characters than a whole number may have,
the minus among them. -/
def plainStart? (s : List Char) : Option (Option (Int × List Char)) :=
  let negative := s.head? == some '-'
  let body := if negative then s.drop 1 else s
  let ds := body.takeWhile Char.isDigit
  if ds.isEmpty || (ds.head? == some '0' && ds.length ≠ 1) then none
  else if digitLimit < s.length - body.length + ds.length then some none
  else some (some (if negative then -(natOfDigits ds : Int) else natOfDigits ds,
    body.drop ds.length))

def plainWhole? (s : List Char) : Option Int :=
  match plainStart? s with
  | some (some (n, [])) => some n
  | _ => none

/-- `s` from its first digit other than zero, or its first minus, on; `last` is the zero or
underscore before `s`. A point ends the zeros, and the last of them stays. -/
def dropZeros? (last : Char) : List Char → Option (List Char)
  | [] => some [last]
  | c :: rest =>
    if c = '0' ∨ c = '_' then dropZeros? c rest
    else if c.isDigit ∨ c = '-' then some (c :: rest)
    else if c = '.' then some (last :: c :: rest)
    else none

/-- `s`, which starts with a digit, without zeros in front. -/
def unpadded? (s : List Char) : Option (List Char) :=
  match s with
  | '0' :: rest => dropZeros? '0' rest
  | c :: _ => if c.isDigit then some s else none
  | [] => none

def withoutFraction (s : List Char) : List Char :=
  let fraction := (s.dropWhile (· ≠ '.')).drop 1
  if !fraction.isEmpty && fraction.all (· = '0') then s.takeWhile (· ≠ '.') else s

/-- A padded whole number in plain form: without white space, plus sign, zeros in front, a fraction
of zeros and underscores. -/
def tidyWhole? (s : List Char) : Option (List Char) :=
  let trimmed := Text.trimBy Text.isWhiteSpace s
  let (sign, body) := match trimmed with
    | '-' :: rest => (['-'], rest)
    | '+' :: rest => ([], rest)
    | _ => ([], trimmed)
  (unpadded? body).map fun t =>
    let t := withoutFraction t
    sign ++ (joinWords? t).getD t

/-- Why a text field is no whole number. -/
inductive LenientFault
  | form
  | size

/-- The whole number of a text field. Only one in plain form is said to be too long. -/
def lenientWhole (s : String) : Except LenientFault Int :=
  match plainStart? s.toList with
  | some (some (n, [])) => .ok n
  | some none => .error .size
  | _ =>
    match (tidyWhole? s.toList).bind plainWhole? with
    | some n => .ok n
    | none => .error .form

end DesignLint.Number
