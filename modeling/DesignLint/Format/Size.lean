import DesignLint.Format.Expression

/-!
# The size of an expression

Two machines look for an expression, one forwards and one backwards through the bytes of a text.
Both have to be small enough.
-/

namespace DesignLint.Format

/-! ## Bytes -/

/-- Bytes that may stand at one place of a character. -/
abbrev ByteRange := Nat × Nat

def bytesOf (n : Nat) : List Nat :=
  if n < 0x80 then [n]
  else if n < 0x800 then [0xC0 + n / 0x40, 0x80 + n % 0x40]
  else if n < 0x10000 then [0xE0 + n / 0x1000, 0x80 + n / 0x40 % 0x40, 0x80 + n % 0x40]
  else [0xF0 + n / 0x40000, 0x80 + n / 0x1000 % 0x40, 0x80 + n / 0x40 % 0x40, 0x80 + n % 0x40]

/-- Where the characters from `a` to `b` fall apart: into those of different lengths, those around
the surrogates, and those whose last bytes do not take all values. The second part starts there. -/
def splitPoint? (a b : Nat) : Option Nat :=
  let ends := [0x80, 0x800, 0xD800, 0xE000, 0x10000].filter fun n => a < n && n ≤ b
  let blocks := [0x40, 0x1000, 0x40000].flatMap fun m =>
    if b < 0x80 || a / m = b / m then []
    else if a % m ≠ 0 then [(a / m + 1) * m]
    else if b % m ≠ m - 1 then [b / m * m]
    else []
  (ends ++ blocks).head?

/-- The characters from `a` to `b` as sequences of bytes, in order. Sixteen splits are enough. -/
def byteSequences : Nat → Nat → Nat → List (List ByteRange)
  | 0, _, _ => []
  | fuel + 1, a, b =>
    match splitPoint? a b with
    | some n => byteSequences fuel a (n - 1) ++ byteSequences fuel n b
    | none =>
      if Text.Ranges.surrogates.1 ≤ a && b ≤ Text.Ranges.surrogates.2 then []
      else [(bytesOf a).zip (bytesOf b)]

def setSequences (s : Text.Ranges) : List (List ByteRange) :=
  s.flatMap fun r => byteSequences 16 r.1 r.2

/-- Sequences by their first bytes; what follows the same bytes is together. -/
def branching : List (List ByteRange) → List (ByteRange × List (List ByteRange))
  | [] => []
  | [] :: rest => branching rest
  | (r :: tail) :: rest =>
    match branching rest with
    | (r', tails) :: others =>
      if r = r' then (r, tail :: tails) :: others else (r, [tail]) :: (r', tails) :: others
    | [] => [(r, [tail])]

/-- The states behind a state that sequences lead on from, each as the sequences behind it. -/
def statesOf : Nat → List (List ByteRange) → List (List (List ByteRange))
  | 0, _ => []
  | fuel + 1, seqs =>
    seqs :: (branching seqs).flatMap fun e => if e.2 = [[]] then [] else statesOf fuel e.2

def stepCount : Nat → List (List ByteRange) → Nat
  | 0, _ => 0
  | fuel + 1, seqs => (branching seqs).foldl (fun n e => n + 1 + stepCount fuel e.2) 0

/-! ## Machines -/

inductive Direction
  | forwards
  | backwards
  deriving DecidableEq

def stateSize : Nat := 32

/-- The size of a state with `n` steps by bytes. -/
def steppingSize (n : Nat) : Nat := stateSize + 8 * n

/-- The size of a state with `n` ways to go on. -/
def choosingSize (n : Nat) : Nat := stateSize + 4 * n

def setSize (d : Direction) (s : Text.Ranges) : Nat :=
  if s.all fun r => r.2 < 0x80 then stateSize + steppingSize s.length
  else
    let seqs := setSequences s
    match d with
    | .forwards =>
      (statesOf 5 seqs).eraseDups.foldl
        (fun total state => total + steppingSize (branching state).length) stateSize
    | .backwards => choosingSize seqs.length + stateSize + stateSize * stepCount 5 seqs

mutual

def Expression.size (d : Direction) : Expression → Nat
  | .empty | .place .. => stateSize
  | .literal text => stateSize * Expression.byteLength text
  | .one s => setSize d s
  | .loop least most e =>
    let part := e.size d
    let again := choosingSize 2 + part
    match least, most with
    | 0, none =>
      if (e.shortest.map fun n => decide (0 < n)).getD false then again
      else again + choosingSize 2 + stateSize
    | n, none => n * part + choosingSize 2
    | 0, some 1 => again + stateSize
    | n, some m =>
      if n = m then n * part
      else (if n = 0 then stateSize else n * part) + stateSize + (m - n) * again
  | .capture e => (if d = .forwards then 2 * stateSize else 0) + e.size d
  | .inOrder l => Expression.totalSize d l
  | .oneOf l => choosingSize l.length + stateSize + Expression.totalSize d l

def Expression.totalSize (d : Direction) : List Expression → Nat
  | [] => 0
  | e :: rest => e.size d + Expression.totalSize d rest

end

/-- The size of the parts that every machine has: those that find the start and note the end. -/
def frameSize (d : Direction) : Nat :=
  choosingSize 2 + stateSize + steppingSize 1 + stateSize +
    if d = .forwards then 2 * stateSize else 0

/-- The greatest size of a machine. -/
def sizeLimit : Nat := 10 * 0x100000

def Expression.isSmall (e : Expression) : Bool :=
  [Direction.forwards, .backwards].all fun d => e.size d + frameSize d ≤ sizeLimit

end DesignLint.Format
