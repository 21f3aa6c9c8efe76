import DesignLint.Format.Parser
import DesignLint.Format.Size
import DesignLint.Format.Translation

/-!
# Looking for a format in a text

Sets of places in a text are numbers: bit `i` says that the place before character `i` belongs to
the set. So a text is gone through once however an expression can be matched.
-/

namespace DesignLint.Format

/-! ## Places -/

/-- The set of the places for which a bit is set, from the first place on. -/
def placesOf (bits : List Bool) : Nat :=
  bits.reverse.foldl (fun n b => 2 * n + b.toNat) 0

/-- The characters before and after each place of a text. -/
def surroundings (text : List Char) : List (Option Char × Option Char) :=
  (none :: text.map some).zip (text.map some ++ [none])

def placesBefore (s : Text.Ranges) (text : List Char) : Nat := placesOf (text.map s.contains)

/-- Whether an assertion holds between two characters, each of which may be missing. -/
def Assertion.holds (isWord : Char → Bool) (crlf : Bool) (a : Assertion)
    (around : Option Char × Option Char) : Bool :=
  let (before, after) := around
  let word (c : Option Char) : Bool := (c.map isWord).getD false
  match a with
  | .textStart => before = none
  | .textEnd => after = none
  | .lineStart =>
    before = none || before = some '\n' || (crlf && before = some '\r' && after != some '\n')
  | .lineEnd =>
    if crlf then after = none || after = some '\r' || (after = some '\n' && before != some '\r')
    else after = none || after = some '\n'
  | .wordBoundary => word before != word after
  | .noWordBoundary => word before == word after
  | .wordStart => !word before && word after
  | .wordEnd => word before && !word after
  | .wordStartHalf => !word before
  | .wordEndHalf => !word after

def Assertion.isAboutWords : Assertion → Bool
  | .textStart | .textEnd | .lineStart | .lineEnd => false
  | _ => true

def placesWhere (a : Assertion) (unicode crlf : Bool) (text : List Char) : Nat :=
  let words := if a.isAboutWords then Shorthand.word.chars unicode else []
  placesOf ((surroundings text).map (a.holds words.contains crlf))

/-! ## Search -/

/-- An expression for one text: its sets and assertions are sets of places. -/
inductive Plan
  | step (before : Nat)
  | check (at' : Nat)
  | loop (least : Nat) (most : Option Nat) (p : Plan)
  | inOrder (l : List Plan)
  | oneOf (l : List Plan)

namespace Plan

mutual

def ofExpression (text : List Char) : Expression → Plan
  | .empty => inOrder []
  | .literal chars =>
    inOrder (chars.map fun c => step (placesBefore [(c.toNat, c.toNat)] text))
  | .one s => step (placesBefore s text)
  | .place a unicode crlf => check (placesWhere a unicode crlf text)
  | .loop least most e => loop least most (ofExpression text e)
  | .capture e => ofExpression text e
  | .inOrder l => inOrder (ofAll text l)
  | .oneOf l => oneOf (ofAll text l)

def ofAll (text : List Char) : List Expression → List Plan
  | [] => []
  | e :: rest => ofExpression text e :: ofAll text rest

end

/-- Where one comes to by going on `n` times. -/
def again (go : Nat → Nat) : Nat → Nat → Nat
  | 0, places => places
  | n + 1, places => if places = 0 then 0 else again go n (go places)

/-- Where one comes to from the places `fresh` by going on at most `n` times, together with the
places `seen` before. -/
def upTo (go : Nat → Nat) : Nat → Nat → Nat → Nat
  | 0, _, seen => seen
  | n + 1, fresh, seen =>
    let next := go fresh
    let fresh := next ^^^ (next &&& seen)
    if fresh = 0 then seen else upTo go n fresh (seen ||| fresh)

mutual

/-- Where a plan may end if it starts at one of the given places, in a text with `length`
characters. Going on without new places is of no use, so that many times are always enough. -/
def ends (length : Nat) : Plan → Nat → Nat
  | step before, places => (places &&& before) <<< 1
  | check at', places => places &&& at'
  | loop least most p, places =>
    let start := again (ends length p) least places
    let times := (most.map (· - least)).getD (length + 1)
    if start = 0 then 0 else upTo (ends length p) times start start
  | inOrder l, places => endsInOrder length l places
  | oneOf l, places => endsOf length l places

def endsInOrder (length : Nat) : List Plan → Nat → Nat
  | [], places => places
  | p :: rest, places =>
    let next := ends length p places
    if next = 0 then 0 else endsInOrder length rest next

def endsOf (length : Nat) : List Plan → Nat → Nat
  | [], _ => 0
  | p :: rest, places => ends length p places ||| endsOf length rest places

end

end Plan

def Expression.isFoundIn (e : Expression) (text : String) : Bool :=
  let chars := text.toList
  let everywhere := placesOf ((surroundings chars).map fun _ => true)
  (Plan.ofExpression chars e).ends chars.length everywhere != 0

/-! ## Formats of texts -/

/-- The expression of a format that is well written and not too large. -/
def compile? (text : String) : Option Expression :=
  (Node.parse? text).bind fun n => (n.translate? {}).bind fun (e, _) =>
    if e.isSmall then some e else none

end DesignLint.Format
