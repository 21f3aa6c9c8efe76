import DesignLint.Pattern.Characters

/-! # The syntax of patterns -/

namespace DesignLint.Pattern

inductive Anchor
  | textStart
  | textEnd
  /-- The end, or before a line break that ends the text. -/
  | lastLineEnd
  | lineStart
  | lineEnd
  /-- Between a character of a word, of Unicode or of ASCII, and another one or none. -/
  | boundary (ascii : Bool)
  /-- Any other place of a text that is not empty. -/
  | noBoundary (ascii : Bool)
  deriving DecidableEq

/-- How often a repetition tries to repeat. -/
inductive Greed
  | most
  | least
  /-- As often as possible, and never fewer times when the rest does not match. -/
  | possessive

inductive Node
  | empty
  | one (m : Mode) (s : Single)
  | anchor (a : Anchor)
  | seq (first second : Node)
  | alt (first second : Node)
  | capture (group : Nat) (body : Node)
  | cluster (body : Node)
  | again (group : Nat) (m : Mode)
  | ahead (body : Node)
  | notAhead (body : Node)
  /-- `body`, which reads `width` characters, ends here. -/
  | behind (width : Nat) (body : Node)
  | notBehind (width : Nat) (body : Node)
  /-- `body` from `least` to `most` times. -/
  | loop (greed : Greed) (least : Nat) (most : Option Nat) (body : Node)
  /-- The first way of `body` only. -/
  | atomic (body : Node)
  /-- `yes` when the group has read something, else `no`. -/
  | choose (group : Nat) (yes no : Node)

namespace Node

def isAnchor : Node → Bool
  | anchor _ => true
  | _ => false

def isLoop : Node → Bool
  | loop _ _ _ _ => true
  | _ => false

def firstGreed? : Node → Option Greed
  | loop greed _ _ _ => some greed
  | seq a b | alt a b | choose _ a b => a.firstGreed?.or b.firstGreed?
  | capture _ b | cluster b | ahead b | notAhead b | behind _ b | notBehind _ b | atomic b =>
    b.firstGreed?
  | empty | one _ _ | anchor _ | again _ _ => none

def inOrder : List Node → Node
  | [] => empty
  | [n] => n
  | n :: rest => seq n (inOrder rest)

def oneOf : List Node → Node
  | [] => empty
  | [n] => n
  | n :: rest => alt n (oneOf rest)

def mentions : Node → List Nat
  | empty | one _ _ | anchor _ => []
  | again g _ => [g]
  | seq a b | alt a b => a.mentions ++ b.mentions
  | choose g a b => g :: a.mentions ++ b.mentions
  | capture _ b | cluster b | ahead b | notAhead b | behind _ b | notBehind _ b | atomic b
  | loop _ _ _ b => b.mentions

/-- The node with the given groups alone, the others being plain parentheses. -/
def remembering (groups : List Nat) : Node → Node
  | empty => empty
  | one m s => one m s
  | anchor a => anchor a
  | seq a b => seq (a.remembering groups) (b.remembering groups)
  | alt a b => alt (a.remembering groups) (b.remembering groups)
  | capture g b =>
    if groups.contains g then capture g (b.remembering groups) else cluster (b.remembering groups)
  | cluster b => cluster (b.remembering groups)
  | again g m => again g m
  | ahead b => ahead (b.remembering groups)
  | notAhead b => notAhead (b.remembering groups)
  | behind w b => behind w (b.remembering groups)
  | notBehind w b => notBehind w (b.remembering groups)
  | loop greed least most b => loop greed least most (b.remembering groups)
  | atomic b => atomic (b.remembering groups)
  | choose g yes no => choose g (yes.remembering groups) (no.remembering groups)

end Node

/-- The least and the greatest number of characters that a node reads; no greatest when it has no
limit. -/
structure Width where
  least : Nat
  most : Option Nat
  deriving DecidableEq

namespace Width

def add (a b : Width) : Width :=
  ⟨a.least + b.least, do let m ← a.most; let n ← b.most; some (m + n)⟩

def or (a b : Width) : Width :=
  ⟨min a.least b.least, do let m ← a.most; let n ← b.most; some (max m n)⟩

def times (a : Width) (least : Nat) (most : Option Nat) : Width :=
  ⟨a.least * least,
    match most with
    | some n => a.most.map (· * n)
    | none => if a.most = some 0 then some 0 else none⟩

def fixed? (a : Width) : Option Nat := if a.most = some a.least then some a.least else none

end Width

/-- The width of a node, given the widths of the groups it may refer to. -/
def Node.width (groups : Nat → Width) : Node → Width
  | .empty => ⟨0, some 0⟩
  | .one _ _ => ⟨1, some 1⟩
  | .anchor _ => ⟨0, some 0⟩
  | .seq a b => (a.width groups).add (b.width groups)
  | .alt a b => (a.width groups).or (b.width groups)
  | .capture _ b => b.width groups
  | .cluster b => b.width groups
  | .again g _ => groups g
  | .ahead _ => ⟨0, some 0⟩
  | .notAhead _ => ⟨0, some 0⟩
  | .behind _ _ => ⟨0, some 0⟩
  | .notBehind _ _ => ⟨0, some 0⟩
  | .loop _ least most b => (b.width groups).times least most
  | .atomic b => b.width groups
  | .choose _ yes no => (yes.width groups).or (no.width groups)

end DesignLint.Pattern
