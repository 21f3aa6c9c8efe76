import DesignLint.Number.Reading
import DesignLint.Text.Folding
import DesignLint.Text.Letters

/-! # Single characters of patterns -/

namespace DesignLint.Pattern

/-- How characters are compared: with or without case, and in all of Unicode or in ASCII. -/
structure Mode where
  ignoreCase : Bool
  ascii : Bool
  deriving DecidableEq

inductive Category
  | digit
  | space
  | word
  deriving DecidableEq

inductive Member
  | char (n : Nat)
  | range (first last : Nat)
  | category (c : Category) (negated : Bool)
  deriving DecidableEq

/-- What is asked of one character. -/
inductive Single
  | char (n : Nat) (negated : Bool)
  | set (members : List Member) (negated : Bool)
  /-- Any character, or any but a line break. -/
  | any (breaks : Bool)
  deriving DecidableEq

def Category.holds (ascii : Bool) : Category → Char → Bool
  | digit, c => if ascii then c.isDigit else Text.isDecimal c
  | space, c => if ascii then Number.isAsciiBlank c else Text.isBlank c
  | word, c => c = '_' || (if ascii then c.isAlphanum else Text.isAlphanumeric c)

namespace Mode

def variants (m : Mode) (c : Char) : List Nat :=
  if m.ignoreCase then
    if m.ascii then Text.asciiVariants c else Text.variants c
  else [c.toNat]

/-- The form in which `c` is looked up in a set. -/
def lowered (m : Mode) (c : Char) : Char :=
  if m.ignoreCase then
    if m.ascii then c.toLower else Text.lowerChar c
  else c

def same (m : Mode) (a b : Char) : Bool := m.lowered a = m.lowered b

end Mode

def lastOfPlane : Nat := 0xFFFF

/-- Whether `n` or its upper case lies between two code points. -/
def isBetween (first last : Nat) (c : Char) : Bool :=
  let upper := Text.upperCode c
  (first ≤ c.toNat && c.toNat ≤ last) || (first ≤ upper && upper ≤ last)

/-- Whether `c` is a member. Without case, beyond the first plane a character is compared as it is
with the lower case of `c`, and a range with that and its upper case. -/
def Member.holds (m : Mode) (c : Char) : Member → Bool
  | char n =>
    if m.ignoreCase && lastOfPlane < n then (m.lowered c).toNat = n else (m.variants c).contains n
  | range first last =>
    if m.ignoreCase && lastOfPlane < last then
      (m.variants c).any (fun n => first ≤ n && n ≤ lastOfPlane) ||
        isBetween first last (m.lowered c)
    else (m.variants c).any fun n => first ≤ n && n ≤ last
  | category k negated => k.holds m.ascii (m.lowered c) != negated

def Single.holds (m : Mode) (c : Char) : Single → Bool
  | char n negated => (m.variants c).contains n != negated
  | set members negated => members.any (·.holds m c) != negated
  | any breaks => breaks || c != '\n'

/-- The members that something can contribute to a larger set. -/
def Single.members? : Single → Option (List Member)
  | char n false => some [.char n]
  | set members false => some members
  | _ => none

/-- A set of members; one character makes no set. -/
def Single.ofMembers (members : List Member) (negated : Bool) : Single :=
  match members.eraseDups with
  | [.char n] => .char n negated
  | l => .set l negated

end DesignLint.Pattern
