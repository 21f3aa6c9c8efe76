import DesignLint.Number.Reading
import DesignLint.Pattern.Fault
import DesignLint.Pattern.Syntax
import DesignLint.Text.Identifier
import DesignLint.Unicode.Names

/-!
# Reading patterns

The parser looks one token ahead, so a backslash at the very end is reported as soon as the token
before it is taken.
-/

namespace DesignLint.Pattern

inductive Token
  | sign (c : Char)
  | escaped (c : Char)
  deriving DecidableEq

namespace Token

def length : Token → Nat
  | sign _ => 1
  | escaped _ => 2

def text : Token → String
  | sign c => c.toString
  | escaped c => "\\" ++ c.toString

/-- Whether the token is an unescaped sign with the property `p`. -/
def isSign (p : Char → Bool) : Token → Bool
  | sign c => p c
  | escaped _ => false

end Token

/-- What the parser knows: the token it sees, the text after it, and the groups so far. -/
structure Scan where
  /-- The offset behind the token that is seen. -/
  index : Nat
  next : Option Token
  rest : List Char
  /-- The widths of the groups from the first one on; none while a group is open. -/
  groups : List (Option Width)
  names : List (String × Nat)
  /-- The number of the first group that a lookbehind around this place may not refer to. -/
  lookbehind : Option Nat
  /-- The groups that conditions refer to, with the offsets of the first mention. -/
  mentions : List (Nat × Nat)
  flags : List Char
  uneven : Bool

abbrev Parser := StateT Scan (Except Fault)

namespace Parser

/-- The greatest number of repetitions, exclusive. -/
def repeatLimit : Nat := 4294967295

def groupLimit : Nat := 1073741823

def offset (s : Scan) : Nat := s.index - (s.next.map Token.length).getD 0

/-- A fault `back` characters before the token that is seen. -/
def fault {α : Type} (cause : Cause) (back : Nat) : Parser α := do
  throw (.broken cause (some (offset (← get) - back)))

def faultAt {α : Type} (cause : Cause) (position : Nat) : Parser α :=
  throw (.broken cause (some position))

def advanced (s : Scan) : Except Fault Scan :=
  match s.rest with
  | [] => .ok { s with next := none }
  | ['\\'] => .error (.broken .danglingEscape (some s.index))
  | '\\' :: c :: rest => .ok { s with next := some (.escaped c), rest, index := s.index + 2 }
  | c :: rest => .ok { s with next := some (.sign c), rest, index := s.index + 1 }

def peek : Parser (Option Token) := do return (← get).next

def take : Parser (Option Token) := do
  let s ← get
  let t ← advanced s
  set t
  return s.next

def accept (c : Char) : Parser Bool := do
  if (← peek) = some (.sign c) then
    let _ ← take
    return true
  else return false

def takeSome (p : Char → Bool) : Nat → Parser (List Char)
  | 0 => return []
  | n + 1 => do
    match ← peek with
    | some (.sign c) =>
      if p c then
        let _ ← take
        return c :: (← takeSome p n)
      else return []
    | _ => return []

def takeAll (p : Char → Bool) : Parser (List Char) := do
  takeSome p ((← get).rest.length + 1)

def nameUntil (terminator : Char) (what : String) : Nat → List Char → Parser String
  | 0, _ => fault (.missingName what) 0
  | fuel + 1, read => do
    match ← take with
    | none =>
      if read.isEmpty then fault (.missingName what) 0
      else fault (.unfinishedName terminator) read.length
    | some t =>
      if t = .sign terminator then
        if read.isEmpty then fault (.missingName what) 1 else return String.ofList read
      else nameUntil terminator what fuel (read ++ t.text.toList)

def name (terminator : Char) (what : String) : Parser String := do
  nameUntil terminator what ((← get).rest.length + 2) []

/-! ## Characters -/

def isHexDigit (c : Char) : Bool :=
  c.isDigit || ('a' ≤ c && c ≤ 'f') || ('A' ≤ c && c ≤ 'F')

def isOctalDigit (c : Char) : Bool := '0' ≤ c && c ≤ '7'

def isAsciiLetter (c : Char) : Bool := ('a' ≤ c && c ≤ 'z') || ('A' ≤ c && c ≤ 'Z')

def valueIn (base : Nat) (ds : List Char) : Nat :=
  ds.foldl (fun n d =>
    n * base + (if d.isDigit then d.toNat - 48 else d.toLower.toNat - 87)) 0

def namedCharacters : List (Char × Nat) :=
  [('a', 7), ('b', 8), ('f', 12), ('n', 10), ('r', 13), ('t', 9), ('v', 11), ('\\', 92)]

/-- The classes with a letter for a name, and whether they are negated. -/
def namedCategories : List (Char × Category × Bool) := [
  ('d', .digit, false), ('D', .digit, true), ('s', .space, false), ('S', .space, true),
  ('w', .word, false), ('W', .word, true)]

def modeOf (flags : List Char) : Mode := ⟨flags.contains 'i', flags.contains 'a'⟩

def oneNode (flags : List Char) (s : Single) : Node := .one (modeOf flags) s

def literalNode (flags : List Char) (n : Nat) : Node := oneNode flags (.char n false)

/-- An escape for a character by its number; `escape` is what was taken of it. -/
def hexEscape (width : Nat) (escape : String) : Parser Nat := do
  let ds ← takeSome isHexDigit width
  let escape := escape ++ String.ofList ds
  if ds.length ≠ width then fault (.incompleteEscape escape) escape.length
  else
    let n := valueIn 16 ds
    if 0x10ffff < n then fault (.badEscape escape) escape.length else return n

def octalEscape (escape : String) : Parser Nat := do
  let ds ← takeSome isOctalDigit 2
  let escape := escape ++ String.ofList ds
  let n := valueIn 8 (escape.toList.drop 1)
  if 0o377 < n then fault (.octalRange escape) escape.length else return n

/-- The escapes that mean one character both inside and outside a set. -/
def characterEscape (c : Char) : Parser Nat := do
  let escape := "\\" ++ c.toString
  if c = 'x' then hexEscape 2 escape
  else if c = 'u' then hexEscape 4 escape
  else if c = 'U' then hexEscape 8 escape
  else if c = 'N' then
    if ← accept '\x7b' then
      let n ← name '\x7d' "character name"
      match Unicode.charNamed? n with
      | some code => return code
      | none => fault (.unknownCharacter n) (n.length + 4)
    else fault .missingBrace 0
  else if isAsciiLetter c then fault (.badEscape escape) 2
  else return c.toNat

def memberEscape (c : Char) : Parser Member := do
  match namedCharacters.lookup c, namedCategories.lookup c with
  | some n, _ => return .char n
  | none, some (k, negated) => return .category k negated
  | none, none =>
    let escape := "\\" ++ c.toString
    let n ← if isOctalDigit c then octalEscape escape
      else if c.isDigit then fault (.badEscape escape) 2
      else characterEscape c
    return .char n

/-! ## Groups -/

def closed? (s : Scan) (group : Nat) : Option Width :=
  if group = 0 then none else (s.groups[group - 1]?).join

def nextGroup (s : Scan) : Nat := s.groups.length + 1

/-- Inside a lookbehind only groups that were closed before it may be used. -/
def checkLookbehind (group : Nat) : Parser Unit := do
  let s ← get
  match s.lookbehind with
  | none => return
  | some limit =>
    if (closed? s group).isNone then fault .openGroup 0
    else if limit ≤ group then fault .groupInLookbehind 0

def againNode (flags : List Char) (group : Nat) : Node := .again group (modeOf flags)

/-- A reference to a group by number; `escape` is the text of the reference. -/
def reference (flags : List Char) (escape : String) : Parser Node := do
  let group := valueIn 10 (escape.toList.drop 1)
  let s ← get
  if group < nextGroup s then
    if (closed? s group).isNone then fault .openGroup escape.length
    else
      checkLookbehind group
      return againNode flags group
  else fault (.unknownGroup group) (escape.length - 1)

/-- A digit after a backslash: three octal digits are a character, else one or two digits refer to
a group. -/
def digitEscape (flags : List Char) (c : Char) : Parser Node := do
  let escape := "\\" ++ c.toString
  match ← peek with
  | some (.sign d) =>
    if d.isDigit then
      let _ ← take
      let escape := escape.push d
      match ← peek with
      | some (.sign e) =>
        if isOctalDigit c && isOctalDigit d && isOctalDigit e then
          let _ ← take
          let escape := escape.push e
          let n := valueIn 8 (escape.toList.drop 1)
          if 0o377 < n then fault (.octalRange escape) escape.length
          else return literalNode flags n
        else reference flags escape
      | _ => reference flags escape
    else reference flags escape
  | _ => reference flags escape

def escapeNode (flags : List Char) (c : Char) : Parser Node := do
  match namedCategories.lookup c with
  | some (k, negated) => return oneNode flags (.set [.category k negated] false)
  | none =>
    if c = 'A' then return .anchor .textStart
    else if c = 'Z' then return .anchor .textEnd
    else if c = 'b' then return .anchor (.boundary (modeOf flags).ascii)
    else if c = 'B' then return .anchor (.noBoundary (modeOf flags).ascii)
    else match namedCharacters.lookup c with
      | some n => return literalNode flags n
      | none =>
        if c = '0' then return literalNode flags (← octalEscape "\\0")
        else if c.isDigit then digitEscape flags c
        else return literalNode flags (← characterEscape c)

/-! ## Sets -/

def members (start : Nat) : Nat → List Member → Parser (List Member)
  | 0, _ => faultAt .unfinishedSet start
  | fuel + 1, read => do
    match ← take with
    | none => faultAt .unfinishedSet start
    | some t =>
      if t = .sign ']' && !read.isEmpty then return read
      else
        let first ← member t
        if ← accept '-' then
          match ← take with
          | none => faultAt .unfinishedSet start
          | some u =>
            if u = .sign ']' then return read ++ [first, .char 45]
            else
              let last ← member u
              match first, last with
              | .char a, .char b =>
                if b < a then fault (.badRange t.text u.text) (t.length + 1 + u.length)
                else members start fuel (read ++ [.range a b])
              | _, _ => fault (.badRange t.text u.text) (t.length + 1 + u.length)
        else members start fuel (read ++ [first])
where
  member : Token → Parser Member
    | .escaped c => memberEscape c
    | .sign c => return .char c.toNat

def setAfterBracket (flags : List Char) : Parser Node := do
  let start := offset (← get) - 1
  let negated ← accept '^'
  return oneNode flags (.ofMembers (← members start ((← get).rest.length + 2) []) negated)

/-! ## Repetitions -/

structure Bounds where
  least : Nat
  most : Option Nat

/-- The bounds in braces, of which the first was just taken; nothing when it is an ordinary sign. -/
def bracedBounds : Parser (Option Bounds) := do
  let before ← get
  let start := offset before
  if before.next = some (.sign '\x7d') then return none
  else
    let low ← takeAll Char.isDigit
    let comma ← accept ','
    let high ← if comma then takeAll Char.isDigit else pure low
    if ← accept '\x7d' then
      let least := valueIn 10 low
      let most := if high.isEmpty then none else some (valueIn 10 high)
      if repeatLimit ≤ least || repeatLimit ≤ most.getD 0 then throw .hugeRepeat
      else if (most.map fun m => decide (m < least)).getD false then faultAt .emptyRepeat start
      else return some ⟨least, most⟩
    else
      set before
      return none

def boundsOf (c : Char) : Parser (Option Bounds) :=
  if c = '?' then return some ⟨0, some 1⟩
  else if c = '*' then return some ⟨0, none⟩
  else if c = '+' then return some ⟨1, none⟩
  else bracedBounds

def greed : Parser Greed := do
  if ← accept '?' then return .least
  else if ← accept '+' then return .possessive
  else return .most

/-- What was read in a sequence: a node, or the nodes of a group that does nothing but bracket. -/
inductive Piece
  | node (n : Node)
  | bracketed (l : List Node)

namespace Piece

def nodes : Piece → List Node
  | node n => [n]
  | bracketed l => l

end Piece

def nodesOf (read : List Piece) : List Node := read.reverse.flatMap Piece.nodes

/-- The last of the pieces read, which are in reverse order, repeated; the sign of the repetition
stood at `position`. -/
def repeatLast (position : Nat) (b : Bounds) : List Piece → Parser (List Piece)
  | [] => faultAt .nothingToRepeat position
  | .node n :: before =>
    if n.isAnchor then faultAt .nothingToRepeat position
    else if n.isLoop then faultAt .repeatedRepeat position
    else do return .node (.loop (← greed) b.least b.most n) :: before
  | .bracketed l :: before => do
    return .node (.loop (← greed) b.least b.most (Node.inOrder l)) :: before

/-! ## Flags -/

def knownFlags : List Char := ['i', 'L', 'm', 's', 'x', 'a', 't', 'u']

/-- Flags that say what characters are; only one of them may be set. -/
def typeFlags : List Char := ['a', 'L', 'u']

/-- A flag that can only be given for a whole pattern: it makes the pattern a template. -/
def wholeFlags : List Char := ['t']

def changed (flags on off : List Char) : List Char :=
  let kept := if on.any typeFlags.contains then flags.filter (!typeFlags.contains ·) else flags
  (kept ++ on).filter (!off.contains ·)

/-- The unknown sign `t` where a flag could stand, or else `cause`. -/
def noFlag {α : Type} (t : Token) (cause : Cause) : Parser α :=
  fault (if t.isSign Text.isLetter then .unknownFlag else cause) t.length

/-- The flags to set, of which `c` is the next; with the token after them. -/
def flagsOn : Nat → Char → List Char → Parser (List Char × Token)
  | 0, _, _ => fault .missingFlagEnd 0
  | fuel + 1, c, on => do
    if c = 'L' then fault .localeFlag 0
    else
      let on := on ++ [c]
      if typeFlags.contains c && on.any fun d => typeFlags.contains d && d != c then
        fault .conflictingFlags 0
      else match ← take with
        | none => fault .missingFlagEnd 0
        | some t =>
          match t with
          | .sign d =>
            if d = ')' || d = '-' || d = ':' then return (on, t)
            else if knownFlags.contains d then flagsOn fuel d on
            else noFlag t .missingFlagEnd
          | .escaped _ => noFlag t .missingFlagEnd

def flagsOff : Nat → Char → List Char → Parser (List Char)
  | 0, _, _ => fault .missingColon 0
  | fuel + 1, c, off => do
    if typeFlags.contains c then fault .typeFlagOff 0
    else match ← take with
      | none => fault .missingColon 0
      | some t =>
        match t with
        | .sign d =>
          if d = ':' then return off ++ [c]
          else if knownFlags.contains d then flagsOff fuel d (off ++ [c])
          else noFlag t .missingColon
        | .escaped _ => noFlag t .missingColon

def flagsAfterDash : Parser (List Char) := do
  let fuel := (← get).rest.length + 2
  match ← take with
  | none => fault .missingFlag 0
  | some t =>
    match t with
    | .sign d => if knownFlags.contains d then flagsOff fuel d [] else noFlag t .missingFlag
    | .escaped _ => noFlag t .missingFlag

/-- The flags of a group that starts with `c`, as those to set and those to unset; nothing when they
are for the whole pattern. -/
def groupFlags (c : Char) : Parser (Option (List Char × List Char)) := do
  let fuel := (← get).rest.length + 2
  let (on, stop) ← if c = '-' then pure ([], Token.sign '-') else flagsOn fuel c []
  if stop = .sign ')' then
    modify fun s => { s with flags := s.flags ++ on }
    return none
  else if on.any wholeFlags.contains then fault .globalFlagOn 1
  else
    let off ← if stop = .sign '-' then flagsAfterDash else pure []
    if off.any wholeFlags.contains then fault .globalFlagOff 1
    else if on.any off.contains then fault .flagOnAndOff 1
    else return some (on, off)

/-! ## Sequences and groups -/

/-- The surroundings of a sequence: the flags unless those of the whole pattern hold, whether blanks
are skipped, and whether it is the first one outside all groups. -/
structure Setting where
  flags : Option (List Char)
  verbose : Bool
  first : Bool

def flagsIn (setting : Setting) : Parser (List Char) := do
  return setting.flags.getD (← get).flags

def inner (setting : Setting) : Parser Setting := do
  return ⟨some (← flagsIn setting), setting.verbose, false⟩

def skipLine : Nat → Parser Unit
  | 0 => return
  | fuel + 1 => do
    match ← take with
    | none => return
    | some t => if t = .sign '\n' then return else skipLine fuel

def skipComment (start : Nat) : Nat → Parser Unit
  | 0 => faultAt .unfinishedComment start
  | fuel + 1 => do
    match ← take with
    | none => faultAt .unfinishedComment start
    | some t => if t = .sign ')' then return else skipComment start fuel

/-- The group that a condition asks about, by name or number. -/
def conditionGroup : Parser Nat := do
  let n ← name ')' "group name"
  let s ← get
  if Text.isIdentifier n then
    match s.names.lookup n with
    | some g => return g
    | none => fault (.unknownName n) (n.length + 1)
  else
    match Number.parseWhole n with
    | .error _ => fault (.badName n) (n.length + 1)
    | .ok i =>
      if i < 0 then fault (.badName n) (n.length + 1)
      else if i = 0 then fault .badGroupNumber (n.length + 1)
      else
        let g := i.toNat
        if groupLimit ≤ g then fault (.unknownGroup g) (n.length + 1)
        else
          if (s.mentions.lookup g).isNone then
            set { s with mentions := s.mentions ++ [(g, offset s - n.length - 1)] }
          return g

def openGroup (name? : Option String) : Parser Nat := do
  let s ← get
  let group := nextGroup s
  match name? with
  | none => set { s with groups := s.groups ++ [none] }
  | some n =>
    match s.names.lookup n with
    | some earlier => fault (.repeatedName n group earlier) (n.length + 1)
    | none => set { s with groups := s.groups ++ [none], names := (n, group) :: s.names }
  return group

def widthOf (n : Node) : Parser Width := do
  let s ← get
  return n.width fun g => (closed? s g).getD ⟨0, none⟩

def closeGroup (group : Nat) (body : Node) : Parser Unit := do
  let w ← widthOf body
  modify fun s => { s with groups := s.groups.set (group - 1) (some w) }

def behindNode (negated : Bool) (body : Node) : Parser Node := do
  match (← widthOf body).fixed? with
  | some w => return if negated then .notBehind w body else .behind w body
  | none =>
    modify fun s => { s with uneven := true }
    return .empty

def groupEnd (start : Nat) : Parser Unit := do
  if !(← accept ')') then faultAt .unfinishedGroup start

/-! ## Alternatives -/

/-- Whether two nodes are the same and neither of them has parts. -/
def sameAtom : Node → Node → Bool
  | .one m s, .one m' s' => m = m' && s = s'
  | .anchor a, .anchor b => a = b
  | .again g m, .again g' m' => g = g' && m = m'
  | _, _ => false

/-- The node that all alternatives start with. -/
def commonStart? : List (List Node) → Option Node
  | (n :: _) :: rest =>
    if rest.all fun l => (l.head?.map (sameAtom n)).getD false then some n else none
  | _ => none

/-- The mode and the members of an alternative that is nothing but a set. -/
def onlySet? : List Node → Option (Mode × List Member)
  | [.one m s] => s.members?.map fun l => (m, l)
  | _ => none

/-- The nodes for several alternatives: what all start with comes before them, and sets are put
together. -/
def oneOf : Nat → List (List Node) → List Node
  | 0, items => [Node.oneOf (items.map Node.inOrder)]
  | fuel + 1, items =>
    match commonStart? items, items.mapM onlySet? with
    | some n, _ => n :: oneOf fuel (items.map (·.drop 1))
    | none, some ((m, l) :: rest) => [.one m (.set (l ++ rest.flatMap (·.2)).eraseDups false)]
    | none, _ => [Node.oneOf (items.map Node.inOrder)]

def joined (items : List (List Node)) : List Node :=
  match items with
  | [l] => l
  | _ => oneOf ((items.head?.map List.length).getD 0 + 1) items

mutual

def alternatives : Nat → Setting → Parser (List (List Node))
  | 0, _ => fault .endOfPattern 0
  | fuel + 1, setting => do
    let first ← sequence fuel setting []
    if ← accept '|' then
      let verbose ← match setting.flags with
        | none => pure ((← get).flags.contains 'x')
        | some _ => pure setting.verbose
      return first :: (← alternatives fuel ⟨setting.flags, verbose, false⟩)
    else return [first]

/-- Nodes one after the other; `read` holds those before, the last one first. -/
def sequence : Nat → Setting → List Piece → Parser (List Node)
  | 0, _, _ => fault .endOfPattern 0
  | fuel + 1, setting, read => do
    match ← peek with
    | none => return nodesOf read
    | some t =>
      if t = .sign '|' || t = .sign ')' then return nodesOf read
      else
        let _ ← take
        let flags ← flagsIn setting
        match t with
        | .escaped c => sequence fuel setting (.node (← escapeNode flags c) :: read)
        | .sign c =>
          if setting.verbose && Number.isAsciiBlank c then sequence fuel setting read
          else if setting.verbose && c = '#' then
            skipLine ((← get).rest.length + 2)
            sequence fuel setting read
          else if c = '[' then sequence fuel setting (.node (← setAfterBracket flags) :: read)
          else if c = '*' || c = '+' || c = '?' || c = '\x7b' then
            let position := offset (← get) - 1
            match ← boundsOf c with
            | some b => sequence fuel setting (← repeatLast position b read)
            | none => sequence fuel setting (.node (literalNode flags c.toNat) :: read)
          else if c = '.' then
            sequence fuel setting (.node (oneNode flags (.any (flags.contains 's'))) :: read)
          else if c = '^' then
            sequence fuel setting
              (.node (.anchor (if flags.contains 'm' then .lineStart else .textStart)) :: read)
          else if c = '$' then
            sequence fuel setting
              (.node (.anchor (if flags.contains 'm' then .lineEnd else .lastLineEnd)) :: read)
          else if c = '(' then
            let start := offset (← get) - 1
            match ← group fuel setting start read.isEmpty with
            | (verbose, some n) => sequence fuel { setting with verbose } (n :: read)
            | (verbose, none) => sequence fuel { setting with verbose } read
          else sequence fuel setting (.node (literalNode flags c.toNat) :: read)

/-- A group whose parenthesis, at `start`, was just taken. Comments and flags give no node; flags
for the whole pattern may also decide whether blanks are skipped from here on. -/
def group : Nat → Setting → Nat → Bool → Parser (Bool × Option Piece)
  | 0, _, _, _ => fault .endOfPattern 0
  | fuel + 1, setting, start, atStart => do
    let inside ← inner setting
    let flags ← flagsIn setting
    if !(← accept '?') then
      return (setting.verbose, some (.node (← captured fuel inside start none)))
    else match ← take with
      | none => fault .endOfPattern 0
      | some (.escaped c) => fault (.unknownExtension (Token.escaped c).text) 3
      | some (.sign c) =>
        if c = 'P' then
          if ← accept '<' then
            let n ← name '>' "group name"
            if !Text.isIdentifier n then fault (.badName n) (n.length + 1)
            else return (setting.verbose, some (.node (← captured fuel inside start (some n))))
          else if ← accept '=' then
            let n ← name ')' "group name"
            let s ← get
            if !Text.isIdentifier n then fault (.badName n) (n.length + 1)
            else match s.names.lookup n with
              | none => fault (.unknownName n) (n.length + 1)
              | some g =>
                if (closed? s g).isNone then fault .openGroup (n.length + 1)
                else
                  checkLookbehind g
                  return (setting.verbose, some (.node (againNode flags g)))
          else match ← take with
            | none => fault .endOfPattern 0
            | some t => fault (.unknownExtension ("P" ++ t.text)) (t.length + 2)
        else if c = ':' then return (setting.verbose, some (.bracketed (← body fuel inside start)))
        else if c = '#' then
          skipComment start ((← get).rest.length + 2)
          return (setting.verbose, none)
        else if c = '=' then
          let b ← body fuel inside start
          return (setting.verbose, some (.node (.ahead (Node.inOrder b))))
        else if c = '!' then
          let b ← body fuel inside start
          return (setting.verbose, some (.node (.notAhead (Node.inOrder b))))
        else if c = '<' then
          match ← take with
          | none => fault .endOfPattern 0
          | some t =>
            if t = .sign '=' || t = .sign '!' then
              let outer := (← get).lookbehind
              if outer.isNone then modify fun s => { s with lookbehind := some (nextGroup s) }
              let b ← lookbehindBody fuel inside start outer
              return (setting.verbose, some (.node (← behindNode (t = .sign '!') (Node.inOrder b))))
            else fault (.unknownExtension ("<" ++ t.text)) (t.length + 2)
        else if c = '(' then
          let g ← conditionGroup
          checkLookbehind g
          let yes ← sequence fuel inside []
          if ← accept '|' then
            let no ← sequence fuel inside []
            if (← peek) = some (.sign '|') then fault .thirdBranch 0
            else
              groupEnd start
              return (setting.verbose,
                some (.node (.choose g (Node.inOrder yes) (Node.inOrder no))))
          else
            groupEnd start
            return (setting.verbose, some (.node (.choose g (Node.inOrder yes) .empty)))
        else if c = '>' then
          let b ← body fuel inside start
          return (setting.verbose, some (.node (.atomic (Node.inOrder b))))
        else if knownFlags.contains c || c = '-' then
          match ← groupFlags c with
          | none =>
            if setting.first && atStart then return ((← get).flags.contains 'x', none)
            else faultAt .lateFlags start
          | some (on, off) =>
            let verbose := (setting.verbose || on.contains 'x') && !off.contains 'x'
            let b ← body fuel ⟨some (changed flags on off), verbose, false⟩ start
            return (setting.verbose, some (.node (.cluster (Node.inOrder b))))
        else fault (.unknownExtension c.toString) 2

def body : Nat → Setting → Nat → Parser (List Node)
  | 0, _, _ => fault .endOfPattern 0
  | fuel + 1, setting, start => do
    let l ← alternatives fuel setting
    groupEnd start
    return joined l

/-- The body of a lookbehind: around it `outer` bounds the groups again. -/
def lookbehindBody : Nat → Setting → Nat → Option Nat → Parser (List Node)
  | 0, _, _, _ => fault .endOfPattern 0
  | fuel + 1, setting, start, outer => do
    let l ← alternatives fuel setting
    modify fun s => { s with lookbehind := outer }
    groupEnd start
    return joined l

def captured : Nat → Setting → Nat → Option String → Parser Node
  | 0, _, _, _ => fault .endOfPattern 0
  | fuel + 1, setting, start, name? => do
    let g ← openGroup name?
    let n := Node.inOrder (← body fuel setting start)
    closeGroup g n
    return .capture g n

end

/-- The name of a loop, none of which a template may have. -/
def loopName : Greed → String
  | .most => "MAX_REPEAT"
  | .least => "MIN_REPEAT"
  | .possessive => "POSSESSIVE_REPEAT"

def pattern (length : Nat) : Parser Node := do
  let _ ← take
  let n := Node.inOrder (joined (← alternatives (4 * length + 8) ⟨none, false, true⟩))
  let s ← get
  if s.next.isSome then fault .strayParenthesis 0
  else match s.mentions.find? fun m => nextGroup s ≤ m.1 with
    | some (g, position) => faultAt (.unknownGroup g) position
    | none => match if s.flags.contains 't' then n.firstGreed? else none with
      | some g => throw (.broken (.templateLoop (loopName g)) none)
      | none => if s.uneven then throw (.broken .variableLookbehind none) else return n

end Parser

def parse (text : String) : Except Fault Node :=
  (Parser.pattern text.length).run' ⟨0, none, text.toList, [], [], none, [], [], false⟩

end DesignLint.Pattern
