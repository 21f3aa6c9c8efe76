import DesignLint.Text.Ranges

/-!
# Tables of characters

Sets of characters are written as words of hexadecimal code points: `41` for one, `41-5A` for a
range, and `100-12E/2` for every second one in a range.
-/

namespace DesignLint.Unicode

def wordsOf (s : String) : List (List Char) :=
  (s.toList.splitOnP Char.isWhitespace).filter fun w => !w.isEmpty

def hexValue (ds : List Char) : Nat :=
  ds.foldl (fun n d => n * 16 + (if d.isDigit then d.toNat - 48 else d.toLower.toNat - 87)) 0

/-- The first and the last code point of a word, and the step from one to the next. -/
def bounds (word : List Char) : Nat × Nat × Nat :=
  let step := (word.dropWhile (· ≠ '/')).drop 1
  let ends := (word.takeWhile (· ≠ '/')).splitOn '-'
  let first := hexValue (ends.headD [])
  (first, (ends[1]?.map hexValue).getD first, if step.isEmpty then 1 else hexValue step)

def codePointsOf (word : List Char) : List Nat :=
  let (first, last, step) := bounds word
  (List.range ((last - first) / step + 1)).map fun i => first + i * step

def rangesOfWord (word : List Char) : Text.Ranges :=
  match bounds word with
  | (first, last, 1) => [(first, last)]
  | _ => (codePointsOf word).map fun n => (n, n)

def rangesOf (s : String) : Text.Ranges := (wordsOf s).flatMap rangesOfWord

/-- Sets of characters, each after its names. -/
abbrev SetTable := List (String × String)

def SetTable.find? (t : SetTable) (name : String) : Option Text.Ranges :=
  (List.find? (fun e => (wordsOf e.1).contains name.toList) t).map fun e => rangesOf e.2

def SetTable.union (t : SetTable) (names : List String) : Text.Ranges :=
  names.flatMap fun n => (t.find? n).getD []

end DesignLint.Unicode
