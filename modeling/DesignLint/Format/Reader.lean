import DesignLint.Format.Syntax
import DesignLint.Text.Blank
import DesignLint.Unicode.Derived

/-! # Reading the parts of a format -/

namespace DesignLint.Format

structure Cursor where
  rest : List Char
  verbose : Bool := false
  names : List (List Char) := []

abbrev Reader := StateT Cursor Option

namespace Reader

def refuse {α : Type} : Reader α := fun _ => none

def rest : Reader (List Char) := return (← get).rest

def peek : Reader (Option Char) := return (← rest).head?

def skip (n : Nat) : Reader Unit := modify fun s => { s with rest := s.rest.drop n }

def take : Reader Char := do
  match ← peek with
  | some c =>
    skip 1
    return c
  | none => refuse

def accept (s : String) : Reader Bool := do
  if s.toList.isPrefixOf (← rest) then
    skip s.length
    return true
  else return false

def expect (s : String) : Reader Unit := do
  if !(← accept s) then refuse

/-! ## Blanks and comments -/

def afterBlanks (inComment : Bool) : List Char → List Char
  | [] => []
  | c :: text =>
    if inComment then afterBlanks (c != '\n') text
    else if Text.isWhiteSpace c then afterBlanks false text
    else if c = '#' then afterBlanks true text
    else c :: text

/-- Leaves blanks and comments behind where they do not count. -/
def skipBlanks : Reader Unit :=
  modify fun s => if s.verbose then { s with rest := afterBlanks false s.rest } else s

/-- The first character after blanks; a comment sign does not count either, but the text behind it
does. -/
def beyondBlanks (inComment : Bool) : List Char → Option Char
  | [] => none
  | c :: text =>
    if Text.isWhiteSpace c then beyondBlanks inComment text
    else if !inComment && c = '#' then beyondBlanks true text
    else some c

def peekSecond : Reader (Option Char) := do
  let s ← get
  let text := s.rest.drop 1
  return if s.verbose then (beyondBlanks false text).or text.head? else text.head?

/-! ## Numbers -/

def isHexDigit (c : Char) : Bool :=
  c.isDigit || ('a' ≤ c && c ≤ 'f') || ('A' ≤ c && c ≤ 'F')

def charOf (ds : List Char) : Reader Char :=
  let n := Unicode.hexValue ds
  if n.isValidChar then return Char.ofNat n else refuse

def hexDigits : Nat → Reader (List Char)
  | 0 => return []
  | n + 1 => do
    let c ← take
    if isHexDigit c then
      skipBlanks
      return c :: (← hexDigits n)
    else refuse

def untilBrace (fuel : Nat) : Reader (List Char) :=
  match fuel with
  | 0 => refuse
  | fuel + 1 => do
    skipBlanks
    let c ← take
    if c = '\x7d' then return []
    else return c :: (← untilBrace fuel)

def braced : Reader (List Char) := do
  untilBrace ((← rest).length + 1)

/-- A character by its number, after the letter that says how many digits it has without braces. -/
def numbered (width : Nat) : Reader Char := do
  skipBlanks
  if ← accept "\x7b" then
    let ds ← braced
    skipBlanks
    if ds.isEmpty || !ds.all isHexDigit then refuse else charOf ds
  else charOf (← hexDigits width)

def decimalDigits (fuel : Nat) : Reader (List Char) :=
  match fuel with
  | 0 => return []
  | fuel + 1 => do
    match ← peek with
    | some c =>
      if c.isDigit then
        skip 1
        skipBlanks
        return c :: (← decimalDigits fuel)
      else return []
    | none => return []

/-- Leaves blanks behind, whether or not they count elsewhere. -/
def skipWhite : Reader Unit := modify fun s => { s with rest := s.rest.dropWhile Text.isWhiteSpace }

/-- The numbers that counts are less than. -/
def countLimit : Nat := 0x100000000

def count : Reader Nat := do
  skipWhite
  let ds ← decimalDigits (← rest).length
  skipWhite
  let n := ds.foldl (fun n d => n * 10 + (d.toNat - 48)) 0
  if ds.isEmpty || countLimit ≤ n then refuse else return n

/-! ## Names -/

def startsName (c : Char) : Bool :=
  if c.toNat < 0x80 then c = '_' || c.isAlpha
  else ((Unicode.property? "alpha").getD []).contains c

def continuesName (c : Char) : Bool :=
  startsName c || c.isDigit || c = '.' || c = '[' || c = ']' ||
    (0x80 ≤ c.toNat && ((Unicode.category? "n").getD []).contains c)

/-- Takes the name of a group and the bracket behind it. No two groups have one name. -/
def groupName : Reader Unit := do
  let name := (← rest).takeWhile (· ≠ '>')
  match name with
  | c :: tail =>
    if startsName c && tail.all continuesName && !(← get).names.contains name then
      skip name.length
      expect ">"
      modify fun s => { s with names := name :: s.names }
    else refuse
  | [] => refuse

/-! ## Flags -/

def flag? (c : Char) : Option Flag :=
  match c with
  | 'i' => some .ignoreCase
  | 'm' => some .multiLine
  | 's' => some .dotAll
  | 'U' => some .swapGreed
  | 'u' => some .unicode
  | 'R' => some .crlf
  | 'x' => some .verbose
  | _ => none

/-- The changes that letters spell; those after a dash clear flags. A flag is named only once, and
so is the dash, which does not come last. -/
def changes? (value : Bool) (read : FlagChanges) : List Char → Option FlagChanges
  | [] => some read.reverse
  | '-' :: rest => if value && !rest.isEmpty then changes? false read rest else none
  | c :: rest => (flag? c).bind fun f =>
    if read.any (·.1 = f) then none else changes? value ((f, value) :: read) rest

end Reader

end DesignLint.Format
