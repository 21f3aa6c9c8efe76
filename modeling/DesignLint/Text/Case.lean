import DesignLint.Text.Ranges
import DesignLint.Text.CaseTables

/-! # Lower case and title case -/

namespace DesignLint.Text

/-- `c` moved by the run that holds it, or `c` itself. -/
def shiftBy (runs : List CaseRun) (c : Char) : Char :=
  match runs.find? (·.holds c.toNat) with
  | some r => Char.ofNat ((c.toNat : Int) + r.shift).toNat
  | none => c

def lowerChar (c : Char) : Char :=
  if c.toNat < 0x80 then c.toLower
  else if c.toNat = 0x130 then 'i'
  else shiftBy lowerRuns c

def isCased (c : Char) : Bool := casedRanges.contains c

def isCaseIgnorable (c : Char) : Bool := caseIgnorableRanges.contains c

/-- Whether a sigma between `before`, read backwards, and `after` ends a word. -/
def endsWord (before after : List Char) : Bool :=
  (match before.dropWhile isCaseIgnorable with
    | [] => false
    | c :: _ => isCased c) &&
  (match after.dropWhile isCaseIgnorable with
    | [] => true
    | c :: _ => !isCased c)

/-- The lower case of `c` between `before`, read backwards, and `after`. -/
def lowerAt (before : List Char) (c : Char) (after : List Char) : List Char :=
  if c.toNat = 0x3a3 then [Char.ofNat (if endsWord before after then 0x3c2 else 0x3c3)]
  else if c.toNat = 0x130 then ['i', Char.ofNat 0x307]
  else [lowerChar c]

def titleAt (c : Char) : List Char :=
  match titleSequences.find? (·.1 == c.toNat) with
  | some r => r.2.map Char.ofNat
  | none => [shiftBy titleRuns c]

/-- The upper case of the letters for which it is not what the title case starts with. -/
def upperRuns : List CaseRun := [
  ⟨0x1c4, 0x1c4, 1, 0⟩, ⟨0x1c5, 0x1c5, 1, -1⟩, ⟨0x1c6, 0x1c6, 1, -2⟩, ⟨0x1c7, 0x1c7, 1, 0⟩,
  ⟨0x1c8, 0x1c8, 1, -1⟩, ⟨0x1c9, 0x1c9, 1, -2⟩, ⟨0x1ca, 0x1ca, 1, 0⟩, ⟨0x1cb, 0x1cb, 1, -1⟩,
  ⟨0x1cc, 0x1cc, 1, -2⟩, ⟨0x1f1, 0x1f1, 1, 0⟩, ⟨0x1f2, 0x1f2, 1, -1⟩, ⟨0x1f3, 0x1f3, 1, -2⟩,
  ⟨0x10d0, 0x10fa, 1, 3008⟩, ⟨0x10fd, 0x10ff, 1, 3008⟩, ⟨0x1f80, 0x1f87, 1, -120⟩,
  ⟨0x1f88, 0x1f8f, 1, -128⟩, ⟨0x1f90, 0x1f97, 1, -104⟩, ⟨0x1f98, 0x1f9f, 1, -112⟩,
  ⟨0x1fa0, 0x1fa7, 1, -56⟩, ⟨0x1fa8, 0x1faf, 1, -64⟩, ⟨0x1fb3, 0x1fb3, 1, -7202⟩,
  ⟨0x1fbc, 0x1fbc, 1, -7211⟩, ⟨0x1fc3, 0x1fc3, 1, -7212⟩, ⟨0x1fcc, 0x1fcc, 1, -7221⟩,
  ⟨0x1ff3, 0x1ff3, 1, -7242⟩, ⟨0x1ffc, 0x1ffc, 1, -7251⟩]

/-- The code point that the upper case of `c` starts with. -/
def upperCode (c : Char) : Nat :=
  if upperRuns.any (·.holds c.toNat) then (shiftBy upperRuns c).toNat
  else ((titleAt c).headD c).toNat

/-- The lower case of the text `after` that follows `before`, which is read backwards. -/
def lowerFrom (before : List Char) : List Char → List Char
  | [] => []
  | c :: after => lowerAt before c after ++ lowerFrom (c :: before) after

/-- The title case of the text that follows `before`, which is read backwards: a letter after a
cased one is lowered, any other is capitalised. -/
def titleFrom (before : List Char) : List Char → List Char
  | [] => []
  | c :: after =>
    (match before with
      | p :: _ => if isCased p then lowerAt before c after else titleAt c
      | [] => titleAt c) ++ titleFrom (c :: before) after

def lower (s : String) : String := String.ofList (lowerFrom [] s.toList)

def title (s : String) : String := String.ofList (titleFrom [] s.toList)

end DesignLint.Text
