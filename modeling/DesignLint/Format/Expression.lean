import DesignLint.Format.Syntax
import DesignLint.Text.Ranges

/-!
# Expressions

A format with its flags worked in. The constructors that are functions drop what does nothing and
join what belongs together.
-/

namespace DesignLint.Format

inductive Expression
  | empty
  | literal (text : List Char)
  | one (s : Text.Ranges)
  /-- A place; words are of Unicode or of ASCII, and lines may end with a carriage return. -/
  | place (a : Assertion) (unicode crlf : Bool)
  | loop (least : Nat) (most : Option Nat) (e : Expression)
  | capture (e : Expression)
  | inOrder (l : List Expression)
  | oneOf (l : List Expression)

namespace Expression

/-! ## Lengths -/

def byteLength (text : List Char) : Nat := text.foldl (fun n c => n + c.utf8Size) 0

def codeSize (n : Nat) : Nat :=
  if n < 0x80 then 1 else if n < 0x800 then 2 else if n < 0x10000 then 3 else 4

mutual

/-- Whether an expression matches nothing but the empty text. -/
def isZeroWidth : Expression → Bool
  | empty | place .. => true
  | literal _ | one _ => false
  | loop _ _ e | capture e => e.isZeroWidth
  | inOrder l | oneOf l => areZeroWidth l

def areZeroWidth : List Expression → Bool
  | [] => true
  | e :: rest => e.isZeroWidth && areZeroWidth rest

end

mutual

/-- The number of bytes that a match has at least; nothing for an expression without matches. -/
def shortest : Expression → Option Nat
  | empty | place .. => some 0
  | literal text => some (byteLength text)
  | one s => s.head?.map fun r => codeSize r.1
  | loop least _ e => e.shortest.map (· * least)
  | capture e => e.shortest
  | inOrder l => shortestInOrder l
  | oneOf l => shortestOf l

def shortestInOrder : List Expression → Option Nat
  | [] => some 0
  | e :: rest => e.shortest.bind fun m => (shortestInOrder rest).map (m + ·)

def shortestOf : List Expression → Option Nat
  | [] => none
  | [e] => e.shortest
  | e :: rest => e.shortest.bind fun m => (shortestOf rest).map (min m ·)

end

/-! ## Equality -/

mutual

/-- Whether two expressions are the same; groups that capture are different from all others. -/
def same : Expression → Expression → Bool
  | empty, empty => true
  | literal s, literal t => s == t
  | one s, one t => s == t
  | place a u c, place b v d => a == b && u == v && c == d
  | loop l m e, loop l' m' e' => l == l' && m == m' && e.same e'
  | inOrder l, inOrder l' => sameAll l l'
  | oneOf l, oneOf l' => sameAll l l'
  | _, _ => false

def sameAll : List Expression → List Expression → Bool
  | [], [] => true
  | e :: rest, e' :: rest' => e.same e' && sameAll rest rest'
  | _, _ => false

end

/-! ## Construction -/

def onlyChar? : Text.Ranges → Option Char
  | [(a, b)] => if a = b then some (Char.ofNat a) else none
  | _ => none

/-- One character of a set that is in normal form. -/
def ofSet (s : Text.Ranges) : Expression :=
  match onlyChar? s with
  | some c => literal [c]
  | none => one s

def elements : Expression → List Expression
  | empty => []
  | inOrder l => l
  | e => [e]

def before (e : Expression) (l : List Expression) : List Expression :=
  match e, l with
  | literal s, literal t :: rest => literal (s ++ t) :: rest
  | _, _ => e :: l

def sequence (l : List Expression) : Expression :=
  match (l.flatMap elements).foldr before [] with
  | [] => empty
  | [e] => e
  | l => inOrder l

/-- How often an expression comes. It makes no difference how often the empty text does. -/
def repeated (least : Nat) (most : Option Nat) (e : Expression) : Expression :=
  let (least, most) :=
    if e.isZeroWidth then (min least 1, some ((most.map (min · 1)).getD 1)) else (least, most)
  if least = 0 && most = some 0 then empty
  else if least = 1 && most = some 1 then e
  else loop least most e

def branches : Expression → List Expression
  | oneOf l => l
  | e => [e]

def chars? : Expression → Option Text.Ranges
  | literal [c] => some [(c.toNat, c.toNat)]
  | one s => some s
  | _ => none

/-- The number of elements that two sequences start with alike. -/
def commonLength : List Expression → List Expression → Nat
  | e :: rest, e' :: rest' => if e.same e' then commonLength rest rest' + 1 else 0
  | _, _ => 0

/-- The number of elements that all branches start with alike, if all are sequences. -/
def sharedLength (l : List Expression) : Nat :=
  match l with
  | inOrder first :: rest =>
    rest.foldl (fun n e => match e with
      | inOrder other => min n (commonLength first other)
      | _ => 0) first.length
  | _ => 0

/-- A choice of branches; of characters it is a set, and what all branches start with comes before
it. -/
def choice (fuel : Nat) (l : List Expression) : Expression :=
  let l := l.flatMap branches
  match l with
  | [] => one []
  | [e] => e
  | _ =>
    match l.mapM chars? with
    | some sets => ofSet (Text.Ranges.normal sets.flatten)
    | none =>
      match sharedLength l, fuel with
      | n + 1, fuel + 1 =>
        let first := ((l.head?.map elements).getD []).take (n + 1)
        sequence (first ++ [choice fuel (l.map fun e => sequence (e.elements.drop (n + 1)))])
      | _, _ => oneOf l

end Expression

end DesignLint.Format
