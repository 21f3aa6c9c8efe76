import DesignLint.Unicode.Names.Alias
import DesignLint.Unicode.Names.Ancient
import DesignLint.Unicode.Names.Eastern
import DesignLint.Unicode.Names.Notation
import DesignLint.Unicode.Names.Pictures
import DesignLint.Unicode.Names.Presentation
import DesignLint.Unicode.Names.Signs
import DesignLint.Unicode.Names.Southern
import DesignLint.Unicode.Names.Symbols
import DesignLint.Unicode.Names.Western
import DesignLint.Unicode.Table

/-!
# Characters by name

Most names are listed. Those of syllables are put together from the names of their sounds, and those
of ideographs and of some other characters end with their code points.
-/

namespace DesignLint.Unicode

namespace Names

/-! ## Listed names -/

def lists : List String :=
  [westernNames, southernNames, symbolsNames, easternNames, presentationNames, ancientNames,
    signsNames, notationNames, picturesNames, otherNames]

/-- The number of words that two names start with alike. -/
def agreeing : List (List Char) → List (List Char) → Nat
  | v :: vs, w :: ws => if v = w then agreeing vs ws + 1 else 0
  | _, _ => 0

/-- The number of words that a line keeps of the name before, and its own words. -/
def parts (line : List Char) : Nat × List (List Char) :=
  let digits := line.takeWhile Char.isDigit
  (digits.foldl (fun n d => n * 10 + (d.toNat - 48)) 0,
    ((line.drop digits.length).splitOn ' ').filter fun w => !w.isEmpty)

/-- The character with a name in the lines of a list. The next line is about the character `code`,
and the line before shares its first `shared` words with the name. -/
def findFrom (name : List (List Char)) : Nat → Nat → List String → Option Nat
  | _, _, [] => none
  | code, shared, line :: rest =>
    match line.toList with
    | '@' :: ds => findFrom name (hexValue ds) shared rest
    | text =>
      let (kept, own) := parts text
      if shared < kept then findFrom name (code + 1) shared rest
      else
        let alike := agreeing (name.drop kept) own
        if alike = own.length && name.length = kept + alike then some code
        else findFrom name (code + 1) (kept + alike) rest

def findIn (name : List (List Char)) (list : String) : Option Nat :=
  findFrom name 0 0 (list.splitOn "\n")

/-! ## Syllables -/

def leadingSounds : List String :=
  ["G", "GG", "N", "D", "DD", "R", "M", "B", "BB", "S", "SS", "", "J", "JJ", "C", "K", "T", "P",
    "H"]

def middleSounds : List String :=
  ["A", "AE", "YA", "YAE", "EO", "E", "YEO", "YE", "O", "WA", "WAE", "OE", "YO", "U", "WEO", "WE",
    "WI", "YU", "EU", "YI", "I"]

def closingSounds : List String :=
  ["", "G", "GG", "GS", "N", "NJ", "NH", "D", "L", "LG", "LM", "LB", "LS", "LT", "LP", "LH", "M",
    "B", "BS", "S", "SS", "NG", "J", "C", "K", "T", "P", "H"]

/-- The place of the longest sound that a text starts with, and the text behind it. -/
def longest? (sounds : List String) (text : List Char) : Option (Nat × List Char) :=
  let fitting := sounds.zipIdx.filter fun s => s.1.toList.isPrefixOf text
  let best := fitting.foldl (fun b s => match b with
    | some t => if t.1.length < s.1.length then some s else b
    | none => some s) (none : Option (String × Nat))
  best.map fun s => (s.2, text.drop s.1.length)

def syllable? (sounds : List Char) : Option Nat := do
  let (leading, rest) ← longest? leadingSounds sounds
  let (middle, rest) ← longest? middleSounds rest
  let (closing, rest) ← longest? closingSounds rest
  if rest.isEmpty then some (0xAC00 + (leading * 21 + middle) * 28 + closing) else none

/-! ## Names with code points -/

/-- The characters whose names end with their code points, after what the names start with. -/
def numberedNames : List (String × Text.Ranges) := [
  ("CJK COMPATIBILITY IDEOGRAPH-", [(0xF900, 0xFA6D), (0xFA70, 0xFAD9), (0x2F800, 0x2FA1D)]),
  ("KHITAN SMALL SCRIPT CHARACTER-", [(0x18B00, 0x18CD5)]),
  ("NUSHU CHARACTER-", [(0x1B170, 0x1B2FB)])]

def ideographs : Text.Ranges :=
  [(0x3400, 0x4DBF), (0x4E00, 0x9FFF), (0x20000, 0x2A6DF), (0x2A700, 0x2B738), (0x2B740, 0x2B81D),
    (0x2B820, 0x2CEA1), (0x2CEB0, 0x2EBE0), (0x30000, 0x3134A)]

def isUpperHexDigit (c : Char) : Bool := c.isDigit || ('A' ≤ c && c ≤ 'F')

/-- The code point in a set that digits spell as names do. -/
def code? (s : Text.Ranges) (digits : List Char) : Option Nat :=
  let n := hexValue digits
  if digits.all isUpperHexDigit && s.hasCode n then some n else none

/-- The ideograph with the given digits in its name, which may have a zero too many. -/
def ideograph? (digits : List Char) : Option Nat :=
  if digits.length = 4 || digits.length = 5 then code? ideographs digits else none

def numbered? (name : String) : Option Nat :=
  numberedNames.findSome? fun e =>
    let digits := name.toList.drop e.1.length
    if name.startsWith e.1 && digits.head? != some '0' then code? e.2 digits else none

end Names

open Names

def syllableStart : String := "HANGUL SYLLABLE "

def ideographStart : String := "CJK UNIFIED IDEOGRAPH-"

/-- The character with a name. Only the names of syllables and of unified ideographs have to be
written in capitals. -/
def charNamed? (name : String) : Option Nat :=
  if name.startsWith syllableStart then syllable? (name.toList.drop syllableStart.length)
  else if name.startsWith ideographStart then ideograph? (name.toList.drop ideographStart.length)
  else
    let upper := String.ofList (name.toList.map Char.toUpper)
    (numbered? upper).or (lists.findSome? (findIn (upper.toList.splitOn ' ')))

end DesignLint.Unicode
