import DesignLint.Pattern.Syntax
import Std.Data.TreeSet.Basic

/-!
# Matching

A node takes the spots where it may begin to the spots where it then ends, in order of preference. A
spot is gone on from once, however many ways lead to it.
-/

namespace DesignLint.Pattern

/-! ## Spots -/

/-- What a group has read last, as the places before and after it. -/
structure Span where
  group : Nat
  start : Nat
  stop : Nat
  deriving DecidableEq, Ord

/-- A place in a text, and what the groups have read so far, in the order of their numbers. -/
structure Spot where
  position : Nat
  groups : List Span
  deriving DecidableEq, Ord

namespace Spot

def group? (s : Spot) (n : Nat) : Option (Nat × Nat) :=
  (s.groups.find? (·.group == n)).map fun x => (x.start, x.stop)

def moveTo (s : Spot) (position : Nat) : Spot := { s with position }

/-- The spans with one more, in place of the one of the same group. -/
def insertSpan (x : Span) : List Span → List Span
  | [] => [x]
  | y :: rest =>
    if x.group < y.group then x :: y :: rest
    else if x.group = y.group then x :: rest
    else y :: insertSpan x rest

def remember (s : Spot) (group start : Nat) : Spot :=
  { s with groups := insertSpan ⟨group, start, s.position⟩ s.groups }

/-- The first mention of each spot. -/
def firsts (l : List Spot) : List Spot :=
  (l.foldl (fun (seen, kept) s =>
      if seen.contains s then (seen, kept) else (seen.insert s, s :: kept))
    ((∅ : Std.TreeSet Spot compare), [])).2.reverse

end Spot

/-! ## Repetition -/

/-- A point between two rounds of a repetition. -/
structure Round where
  spot : Spot
  /-- How many more rounds there may be, if that is limited. -/
  left : Option Nat
  /-- Whether the round before has come on. After one that has not, there is no other round. -/
  moved : Bool
  deriving DecidableEq, Ord

namespace Round

def mayGoOn (r : Round) : Bool := r.moved && r.left != some 0

def next (r : Round) (s : Spot) : Round :=
  ⟨s, r.left.map (· - 1), s.position != r.spot.position⟩

end Round

/-- What a repetition has gone through: the points, and the spots where it may end, the latest
first. -/
structure Tour where
  seen : Std.TreeSet Round compare
  ends : List Spot

namespace Tour

def empty : Tour := ⟨∅, []⟩

def enter (t : Tour) (r : Round) : Tour := { t with seen := t.seen.insert r }

def reach (t : Tour) (s : Spot) : Tour := { t with ends := s :: t.ends }

/-- Going on with rounds of `body`, as often as possible or, if not `eager`, as seldom as possible.
From a point that has been gone through already nothing new is reached. -/
def goOn (body : Spot → List Spot) (eager : Bool) : Nat → Tour → Round → Tour
  | 0, t, r => t.reach r.spot
  | fuel + 1, t, r =>
    if t.seen.contains r then t
    else
      let t := t.enter r
      if r.mayGoOn then
        let rounds (t : Tour) : Tour :=
          (body r.spot).foldl (fun t s => goOn body eager fuel t (r.next s)) t
        if eager then (rounds t).reach r.spot else rounds (t.reach r.spot)
      else t.reach r.spot

end Tour

def taken (step : List Spot → List Spot) : Nat → List Spot → List Spot
  | 0, l => l
  | n + 1, l => if l.isEmpty then [] else taken step n (step l)

/-- Where `n` rounds of `body` end of which each takes its first way. -/
def heldTimes (body : Spot → List Spot) : Nat → Spot → Option Spot
  | 0, s => some s
  | n + 1, s => (body s).head?.bind (heldTimes body n)

/-- Where as many rounds of `body` as may be end of which each takes its first way. -/
def held (body : Spot → List Spot) : Nat → Round → Spot
  | 0, r => r.spot
  | fuel + 1, r =>
    if r.mayGoOn then
      match body r.spot with
      | s :: _ => held body fuel (r.next s)
      | [] => r.spot
    else r.spot

/-- A repetition in a text of `length` characters. Each round but the last comes on, so that there
are fewer rounds than the fuel allows. -/
def repeating (length : Nat) (greed : Greed) (least : Nat) (most : Option Nat)
    (body : List Spot → List Spot) (l : List Spot) : List Spot :=
  let single (s : Spot) : List Spot := body [s]
  let first (s : Spot) : Round := ⟨s, most.map (· - least), true⟩
  let tour (eager : Bool) : List Spot :=
    Spot.firsts ((taken body least l).foldl
      (fun t s => t.goOn single eager (length + 2) (first s)) Tour.empty).ends.reverse
  match greed with
  | .most => tour true
  | .least => tour false
  | .possessive =>
    l.filterMap fun s => (heldTimes single least s).map fun t => held single (length + 2) (first t)

/-! ## Conditions -/

def Anchor.holds (text : Array Char) (position : Nat) : Anchor → Bool
  | textStart => position = 0
  | textEnd => position = text.size
  | lastLineEnd =>
    position = text.size || (position + 1 = text.size && text[position]? == some '\n')
  | lineStart => position = 0 || text[position - 1]? == some '\n'
  | lineEnd => position = text.size || text[position]? == some '\n'
  | boundary ascii => atBoundary (Category.word.holds ascii)
  | noBoundary ascii => text.size ≠ 0 && !atBoundary (Category.word.holds ascii)
where
  atBoundary (word : Char → Bool) : Bool :=
    let before := position ≠ 0 && (text[position - 1]?.map word).getD false
    let after := (text[position]?.map word).getD false
    before != after

/-! ## Nodes -/

/-- Where the text between `start` and `stop` ends when it stands once more at `position`. -/
def repeated? (text : Array Char) (m : Mode) (start stop position : Nat) :
    Option Nat :=
  let length := stop - start
  let equal := (List.range length).all fun i =>
    match text[start + i]?, text[position + i]? with
    | some a, some b => m.same a b
    | _, _ => false
  if equal then some (position + length) else none

def Node.ends (text : Array Char) : Node → List Spot → List Spot
  | .empty, l => l
  | .one m p, l =>
    l.filterMap fun s =>
      match text[s.position]? with
      | some c => if p.holds m c then some (s.moveTo (s.position + 1)) else none
      | none => none
  | .anchor a, l => l.filter fun s => a.holds text s.position
  | .seq a b, l => b.ends text (a.ends text l)
  | .alt a b, l => Spot.firsts (l.flatMap fun s => a.ends text [s] ++ b.ends text [s])
  | .capture g b, l =>
    Spot.firsts (l.flatMap fun s => (b.ends text [s]).map (·.remember g s.position))
  | .cluster b, l => b.ends text l
  | .again g m, l =>
    l.filterMap fun s =>
      match s.group? g with
      | some (start, stop) => (repeated? text m start stop s.position).map s.moveTo
      | none => none
  | .ahead b, l => l.filterMap fun s => (b.ends text [s]).head?.map (·.moveTo s.position)
  | .notAhead b, l => l.filter fun s => (b.ends text [s]).isEmpty
  | .behind w b, l =>
    l.filterMap fun s =>
      if s.position < w then none
      else (b.ends text [s.moveTo (s.position - w)]).head?.map (·.moveTo s.position)
  | .notBehind w b, l =>
    l.filter fun s => s.position < w || (b.ends text [s.moveTo (s.position - w)]).isEmpty
  | .loop greed least most b, l => repeating text.size greed least most (b.ends text) l
  | .atomic b, l => l.filterMap fun s => (b.ends text [s]).head?
  | .choose g yes no, l =>
    Spot.firsts (l.flatMap fun s =>
      if (s.group? g).isSome then yes.ends text [s] else no.ends text [s])

/-! ## Search -/

/-- Whether a node matches somewhere in a text. What a group reads is remembered only if the node
refers to it. -/
def Node.isFoundIn (n : Node) (text : String) : Bool :=
  let chars := text.toList.toArray
  let everywhere := (List.range (chars.size + 1)).map fun i => (⟨i, []⟩ : Spot)
  !((n.remembering n.mentions).ends chars everywhere).isEmpty

end DesignLint.Pattern
