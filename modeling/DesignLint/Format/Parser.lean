import DesignLint.Format.Reader

/-! # Reading a format -/

namespace DesignLint.Format

open Reader

/-! ## Escapes -/

/-- Whether a backslash before `c` has no meaning but `c`. -/
def isPlainAfterBackslash (c : Char) : Bool :=
  c.toNat < 0x80 && !c.isAlphanum && c != '<' && c != '>'

def letterEscapes : List (Char × Char) :=
  [('a', '\x07'), ('f', '\x0c'), ('t', '\t'), ('n', '\n'), ('r', '\r'), ('v', '\x0b')]

def assertionEscapes : List (Char × Assertion) :=
  [('A', .textStart), ('z', .textEnd), ('b', .wordBoundary), ('B', .noWordBoundary),
    ('<', .wordStart), ('>', .wordEnd)]

def wordAssertions : List (String × Assertion) :=
  [("start", .wordStart), ("end", .wordEnd), ("start-half", .wordStartHalf),
    ("end-half", .wordEndHalf)]

/-- The classes that have a letter, each with its opposite. -/
def shorthands : List (Char × Shorthand × Bool) :=
  [('d', .digit, false), ('D', .digit, true), ('s', .space, false), ('S', .space, true),
    ('w', .word, false), ('W', .word, true)]

def isWordLetter (c : Char) : Bool := c.isAlpha || c = '-'

/-- The boundary after its letter. A word in braces says which kind it is; what else stands in
braces says how often it comes. -/
def boundary : Reader Node := do
  let start ← get
  if ← accept "\x7b" then
    skipBlanks
    match ← peek with
    | none => refuse
    | some c =>
      if isWordLetter c then
        let word ← braced
        match wordAssertions.lookup (String.ofList word) with
        | some a => return .assertion a
        | none => refuse
      else
        set start
        return .assertion .wordBoundary
  else return .assertion .wordBoundary

def cutAt? (part : List Char) : List Char → Option (List Char × List Char)
  | [] => none
  | c :: text =>
    if part.isPrefixOf (c :: text) then some ([], (c :: text).drop part.length)
    else (cutAt? part text).map fun p => (c :: p.1, p.2)

def propertyQuery (text : List Char) : PropertyQuery :=
  match (cutAt? ['!', '='] text).or ((cutAt? [':'] text).or (cutAt? ['='] text)) with
  | some (name, value) => .valued name value
  | none => .named text

def property : Reader PropertyQuery := do
  skipBlanks
  if ← accept "\x7b" then return propertyQuery (← braced)
  else
    let c ← take
    if c = '\\' then refuse
    else
      skipBlanks
      return .named [c]

def escape : Reader Node := do
  let c ← take
  match c with
  | 'x' =>
    let braces := (← get).verbose
    let text ← rest
    let inBraces := (if braces then afterBlanks false text else text).head? = some '\x7b'
    return .char (← numbered 2) (!inBraces)
  | 'u' => return .char (← numbered 4) false
  | 'U' => return .char (← numbered 8) false
  | 'p' => return .property (← property) false
  | 'P' => return .property (← property) true
  | 'b' => boundary
  | _ =>
    match shorthands.lookup c, letterEscapes.lookup c, assertionEscapes.lookup c with
    | some (kind, negated), _, _ => return .shorthand kind negated
    | _, some d, _ => return .char d false
    | _, _, some a => return .assertion a
    | _, _, _ => if isPlainAfterBackslash c then return .char c false else refuse

/-! ## Sets -/

def classNames : List String :=
  ["alnum", "alpha", "ascii", "blank", "cntrl", "digit", "graph", "lower", "print", "punct",
    "space", "upper", "word", "xdigit"]

/-- The class that a text starts with after its bracket, and the rest of the text. What names no
class is a set of its own. -/
def namedClass? (text : List Char) : Option (SetItem × List Char) :=
  match text with
  | ':' :: text =>
    let negated := text.head? = some '^'
    let text := if negated then text.drop 1 else text
    let name := String.ofList (text.takeWhile (· ≠ ':'))
    let after := text.dropWhile (· ≠ ':')
    if [':', ']'].isPrefixOf after && classNames.contains name then
      some (.named name negated, after.drop 2)
    else none
  | _ => none

/-- One member of a set, or one end of a range. -/
def setItem : Reader SetItem := do
  let c ← take
  if c = '\\' then
    match ← escape with
    | .char d _ => return .char d
    | .shorthand kind negated => return .shorthand kind negated
    | .property query negated => return .property query negated
    | _ => refuse
  else return .char c

/-- A member of a set or a range of characters. A dash before the end of the set, or before another
dash, makes no range. -/
def setRange : Reader SetItem := do
  let first ← setItem
  skipBlanks
  if (← peek) = some '-' then
    let second ← peekSecond
    if second = some ']' || second = some '-' then return first
    else
      skip 1
      skipBlanks
      match first, ← setItem with
      | .char a, .char b => if a ≤ b then return .range a b else refuse
      | _, _ => refuse
  else return first

def leadingDashes (fuel : Nat) : Reader (List SetItem) :=
  match fuel with
  | 0 => return []
  | fuel + 1 => do
    if ← accept "-" then
      skipBlanks
      return .char '-' :: (← leadingDashes fuel)
    else return []

/-- The members that stand at the start of a set, where a bracket does not close it. -/
def leadingItems : Reader (List SetItem) := do
  let dashes ← leadingDashes (← rest).length
  if !dashes.isEmpty then return dashes
  else if ← accept "]" then
    skipBlanks
    return [.char ']']
  else return []

def setOperator? : Reader (Option SetOperator) := do
  if ← accept "&&" then return some .inter
  else if ← accept "--" then return some .without
  else if ← accept "~~" then return some .symmetric
  else return none

abbrev LeftSide := Option (SetBody × SetOperator)

/-- The set that ends with members, given in reverse; operators bind to the left. -/
def endedBody (left : LeftSide) (read : List SetItem) : SetBody :=
  match left with
  | some (b, op) => .operation op b (.items read.reverse)
  | none => .items read.reverse

mutual

def nestedSet : Nat → Reader (Bool × SetBody)
  | 0 => refuse
  | fuel + 1 => do
    skipBlanks
    let negated ← accept "^"
    skipBlanks
    let read ← leadingItems
    return (negated, ← setBody fuel none read.reverse)

def setBody : Nat → LeftSide → List SetItem → Reader SetBody
  | 0, _, _ => refuse
  | fuel + 1, left, read => do
    skipBlanks
    if ← accept "]" then return endedBody left read
    else if ← accept "[" then
      match namedClass? (← rest) with
      | some (item, text) =>
        modify fun s => { s with rest := text }
        setBody fuel left (item :: read)
      | none =>
        let (negated, body) ← nestedSet fuel
        setBody fuel left (.nested negated body :: read)
    else match ← setOperator? with
      | some op => setBody fuel (some (endedBody left read, op)) []
      | none => setBody fuel left ((← setRange) :: read)

end

/-! ## Repetition -/

def lazySign : Reader Unit := do
  let _ ← accept "?"

def counts : Reader (Nat × Option Nat) := do
  skipBlanks
  let least ← count
  let most ←
    if ← accept "," then
      skipBlanks
      if (← peek) = some '\x7d' then pure none else pure (some (← count))
    else pure (some least)
  expect "\x7d"
  skipBlanks
  if (most.map fun n => decide (n < least)).getD false then refuse else return (least, most)

def countsAfter (c : Char) : Reader (Nat × Option Nat) :=
  match c with
  | '?' => return (0, some 1)
  | '*' => return (0, none)
  | '+' => return (1, none)
  | _ => counts

/-! ## Groups -/

def looksAround (text : List Char) : Bool :=
  ["?=", "?!", "?<=", "?<!"].any fun s => s.toList.isPrefixOf text

/-- Something that is neither group nor set nor repetition, after its first character. -/
def primitive (c : Char) : Reader Node :=
  match c with
  | '\\' => escape
  | '.' => return .dot
  | '^' => return .assertion .lineStart
  | '$' => return .assertion .lineEnd
  | _ => return .char c false

/-- The branches of a choice in reverse, and the sequence in reverse that is the last of them. -/
def choiceOf (branches read : List Node) : Node :=
  let last := Node.ofSequence read.reverse
  if branches.isEmpty then last else .oneOf (last :: branches).reverse

mutual

def choice : Nat → List Node → List Node → Reader Node
  | 0, _, _ => refuse
  | fuel + 1, branches, read => do
    skipBlanks
    match ← peek with
    | none | some ')' => return choiceOf branches read
    | some c =>
      skip 1
      match c with
      | '|' => choice fuel (Node.ofSequence read.reverse :: branches) []
      | '(' => choice fuel branches ((← group fuel) :: read)
      | '[' =>
        let (negated, body) ← nestedSet fuel
        choice fuel branches (.set negated body :: read)
      | '?' | '*' | '+' | '\x7b' =>
        match read with
        | [] => refuse
        | n :: before =>
          let (least, most) ← countsAfter c
          lazySign
          if n.isRepeatable then choice fuel branches (.loop least most n :: before) else refuse
      | _ => choice fuel branches ((← primitive c) :: read)

/-- A group after its parenthesis. The verbose flag is as before behind the group, unless the group
does nothing but set flags. -/
def group : Nat → Reader Node
  | 0 => refuse
  | fuel + 1 => do
    skipBlanks
    let verbose := (← get).verbose
    if looksAround (← rest) then refuse
    else if (← accept "?P<") || (← accept "?<") then
      groupName
      return .capture (← body fuel verbose)
    else if ← accept "?" then
      let letters := (← rest).takeWhile fun c => c != ')' && c != ':'
      skip letters.length
      match changes? true [] letters with
      | none => refuse
      | some changes =>
        modify fun s => { s with verbose := (changes.lookup .verbose).getD verbose }
        if ← accept ":" then return .group changes (← body fuel verbose)
        else
          expect ")"
          if changes.isEmpty then refuse else return .flags changes
    else return .capture (← body fuel verbose)

def body : Nat → Bool → Reader Node
  | 0, _ => refuse
  | fuel + 1, verbose => do
    let n ← choice fuel [] []
    modify fun s => { s with verbose := verbose }
    expect ")"
    return n

end

/-- The format that a text spells. -/
def Node.parse? (text : String) : Option Node :=
  match (choice (4 * text.length + 8) [] []).run { rest := text.toList } with
  | some (n, s) => if s.rest.isEmpty && n.depth ≤ depthLimit then some n else none
  | none => none

end DesignLint.Format
