/-! # Formats as they are written -/

namespace DesignLint.Format

/-! ## Flags -/

inductive Flag
  | ignoreCase
  | multiLine
  | dotAll
  | swapGreed
  | unicode
  | crlf
  | verbose
  deriving DecidableEq

/-- The flags that a directive sets, and those that it clears. -/
abbrev FlagChanges := List (Flag × Bool)

/-! ## Sets of characters -/

inductive Shorthand
  | digit
  | space
  | word

inductive PropertyQuery
  | named (name : List Char)
  | valued (name value : List Char)

inductive SetOperator
  | inter
  | without
  | symmetric

mutual

inductive SetItem
  | char (c : Char)
  | range (first last : Char)
  | named (name : String) (negated : Bool)
  | shorthand (kind : Shorthand) (negated : Bool)
  | property (query : PropertyQuery) (negated : Bool)
  | nested (negated : Bool) (body : SetBody)

inductive SetBody
  | items (l : List SetItem)
  | operation (op : SetOperator) (left right : SetBody)

end

/-! ## Formats -/

inductive Assertion
  | lineStart
  | lineEnd
  | textStart
  | textEnd
  | wordBoundary
  | noWordBoundary
  | wordStart
  | wordEnd
  | wordStartHalf
  | wordEndHalf
  deriving DecidableEq

/-- A format. A character that is written as a byte, in two hexadecimal digits, says so. -/
inductive Node
  | empty
  | flags (changes : FlagChanges)
  | char (c : Char) (asByte : Bool)
  | dot
  | assertion (a : Assertion)
  | shorthand (kind : Shorthand) (negated : Bool)
  | property (query : PropertyQuery) (negated : Bool)
  | set (negated : Bool) (body : SetBody)
  | loop (least : Nat) (most : Option Nat) (n : Node)
  | capture (n : Node)
  /-- A group that only groups, and may change flags. -/
  | group (changes : FlagChanges) (n : Node)
  | inOrder (l : List Node)
  | oneOf (l : List Node)

namespace Node

def ofSequence : List Node → Node
  | [] => empty
  | [n] => n
  | l => inOrder l

def isRepeatable : Node → Bool
  | empty | flags _ => false
  | _ => true

end Node

/-! ## Depth -/

mutual

def SetItem.depth : SetItem → Nat
  | .nested _ b => b.depth + 1
  | _ => 0

def SetBody.depth : SetBody → Nat
  | .items l => if l.length < 2 then SetItem.greatest l else SetItem.greatest l + 1
  | .operation _ a b => max a.depth b.depth + 1

def SetItem.greatest : List SetItem → Nat
  | [] => 0
  | i :: rest => max i.depth (SetItem.greatest rest)

end

mutual

def Node.depth : Node → Nat
  | .set _ b => b.depth + 1
  | .loop _ _ n => n.depth + 1
  | .capture n => n.depth + 1
  | .group _ n => n.depth + 1
  | .inOrder l => Node.greatest l + 1
  | .oneOf l => Node.greatest l + 1
  | _ => 0

def Node.greatest : List Node → Nat
  | [] => 0
  | n :: rest => max n.depth (Node.greatest rest)

end

/-- The greatest depth that is accepted. -/
def depthLimit : Nat := 250

end DesignLint.Format
