import DesignLint.Format.Expression
import DesignLint.Format.Property
import DesignLint.Unicode.Folding

/-! # From formats to expressions -/

namespace DesignLint.Format

/-! ## Flags -/

/-- The flags that hold at a place. -/
structure Flags where
  ignoreCase : Bool := false
  multiLine : Bool := false
  dotAll : Bool := false
  unicode : Bool := true
  crlf : Bool := false

namespace Flags

/-- The flags after one change. How much a repetition takes, and how a format is written, makes no
difference to what is found. -/
def change (f : Flags) : Flag × Bool → Flags
  | (.ignoreCase, v) => { f with ignoreCase := v }
  | (.multiLine, v) => { f with multiLine := v }
  | (.dotAll, v) => { f with dotAll := v }
  | (.unicode, v) => { f with unicode := v }
  | (.crlf, v) => { f with crlf := v }
  | (.swapGreed, _) | (.verbose, _) => f

def changeAll (f : Flags) (changes : FlagChanges) : Flags := changes.foldl change f

end Flags

/-! ## Sets -/

def namedSets : List (String × Text.Ranges) := [
  ("alnum", [(0x30, 0x39), (0x41, 0x5A), (0x61, 0x7A)]), ("alpha", [(0x41, 0x5A), (0x61, 0x7A)]),
  ("ascii", [(0, 0x7F)]), ("blank", [(0x09, 0x09), (0x20, 0x20)]),
  ("cntrl", [(0, 0x1F), (0x7F, 0x7F)]), ("digit", [(0x30, 0x39)]), ("graph", [(0x21, 0x7E)]),
  ("lower", [(0x61, 0x7A)]), ("print", [(0x20, 0x7E)]),
  ("punct", [(0x21, 0x2F), (0x3A, 0x40), (0x5B, 0x60), (0x7B, 0x7E)]),
  ("space", [(0x09, 0x0D), (0x20, 0x20)]), ("upper", [(0x41, 0x5A)]),
  ("word", [(0x30, 0x39), (0x41, 0x5A), (0x5F, 0x5F), (0x61, 0x7A)]),
  ("xdigit", [(0x30, 0x39), (0x41, 0x46), (0x61, 0x66)])]

def Shorthand.asciiSet : Shorthand → Text.Ranges
  | .digit => [(0x30, 0x39)]
  | .space => [(0x09, 0x0D), (0x20, 0x20)]
  | .word => [(0x30, 0x39), (0x41, 0x5A), (0x5F, 0x5F), (0x61, 0x7A)]

/-- How the characters of a class follow from their properties. -/
def Shorthand.derivation : Shorthand → Unicode.Derivation
  | .digit => { categories := ["nd"] }
  | .space => { categories := [], properties := ["wspace"] }
  | .word =>
    { categories := Unicode.letters ++ ["nl", "nd", "pc"] ++ Unicode.marks
      properties := ["olower", "oupper", "oalpha", "joinc"] }

def Shorthand.chars (kind : Shorthand) (unicode : Bool) : Text.Ranges :=
  if unicode then kind.derivation.ranges else kind.asciiSet

/-- A set with the letters of ASCII in both cases if it has one of them. -/
def foldedInAscii (s : Text.Ranges) : Text.Ranges :=
  s ++ (List.range 26).flatMap fun i =>
    if s.hasCode (0x41 + i) || s.hasCode (0x61 + i) then
      [(0x41 + i, 0x41 + i), (0x61 + i, 0x61 + i)]
    else []

namespace Flags

/-- A set with all that equals its members under the flags. -/
def fold (f : Flags) (s : Text.Ranges) : Text.Ranges :=
  if !f.ignoreCase then s
  else if f.unicode then Unicode.folded s
  else foldedInAscii s

/-- A set or what it leaves out; that is never within ASCII. -/
def negate? (f : Flags) (negated : Bool) (s : Text.Ranges) : Option Text.Ranges :=
  if !negated then some s
  else if f.unicode then some s.complement
  else none

def shorthand? (f : Flags) (kind : Shorthand) (negated : Bool) : Option Text.Ranges :=
  f.negate? negated (kind.chars f.unicode)

def property? (f : Flags) (q : PropertyQuery) (negated : Bool) : Option Text.Ranges :=
  if f.unicode then q.chars?.bind fun s => f.negate? negated (f.fold s) else none

def range? (f : Flags) (first last : Char) : Option Text.Ranges :=
  if f.unicode || last.toNat < 0x80 then some [(first.toNat, last.toNat)] else none

mutual

def item? (f : Flags) : SetItem → Option Text.Ranges
  | .char c => f.range? c c
  | .range first last => f.range? first last
  | .named name negated => f.negate? negated (f.fold ((namedSets.lookup name).getD []))
  | .shorthand kind negated => f.shorthand? kind negated
  | .property query negated => f.property? query negated
  | .nested negated body => (f.body? body).bind fun s => f.negate? negated (f.fold s)

def items? (f : Flags) : List SetItem → Option Text.Ranges
  | [] => some []
  | i :: rest => (f.item? i).bind fun s => (f.items? rest).map (s.union ·)

def body? (f : Flags) : SetBody → Option Text.Ranges
  | .items l => f.items? l
  | .operation op a b => (f.body? a).bind fun s => (f.body? b).map fun t => match op with
    | .inter => (f.fold s).inter (f.fold t)
    | .without => (f.fold s).without (f.fold t)
    | .symmetric => (f.fold s).symmetric (f.fold t)

end

def set? (f : Flags) (negated : Bool) (body : SetBody) : Option Text.Ranges :=
  f.item? (.nested negated body)

def one (s : Text.Ranges) : Expression := .ofSet (Text.Ranges.normal s)

/-- The character `c`, or one that equals it under the flags. A byte beyond ASCII is none. -/
def char? (f : Flags) (c : Char) (asByte : Bool) : Option Expression :=
  if !f.unicode && asByte && 0x80 ≤ c.toNat then none
  else some (one (f.fold [(c.toNat, c.toNat)]))

/-- Any character, but not the end of a line unless that is asked for. -/
def dot? (f : Flags) : Option Expression :=
  if !f.unicode then none
  else if f.dotAll then some (one [(0, Text.Ranges.lastCode)])
  else if f.crlf then some (one (Text.Ranges.complement [(0x0A, 0x0A), (0x0D, 0x0D)]))
  else some (one (Text.Ranges.complement [(0x0A, 0x0A)]))

/-- The place that an assertion is about: the ends of lines are those of the text unless there are
several lines. -/
def place (f : Flags) (a : Assertion) : Expression :=
  match a with
  | .lineStart => .place (if f.multiLine then .lineStart else .textStart) f.unicode f.crlf
  | .lineEnd => .place (if f.multiLine then .lineEnd else .textEnd) f.unicode f.crlf
  | a => .place a f.unicode f.crlf

end Flags

/-! ## Formats -/

mutual

/-- The expression of a format, and the flags that hold behind it. -/
def Node.translate? (f : Flags) : Node → Option (Expression × Flags)
  | .empty => some (.empty, f)
  | .flags changes => some (.empty, f.changeAll changes)
  | .char c asByte => (f.char? c asByte).map (·, f)
  | .dot => f.dot?.map (·, f)
  | .assertion a => some (f.place a, f)
  | .shorthand kind negated => (f.shorthand? kind negated).map fun s => (Flags.one s, f)
  | .property query negated => (f.property? query negated).map fun s => (Flags.one s, f)
  | .set negated body => (f.set? negated body).map fun s => (Flags.one s, f)
  | .loop least most n => (n.translate? f).map fun (e, g) => (.repeated least most e, g)
  | .capture n => (n.translate? f).map fun (e, _) => (.capture e, f)
  | .group changes n => (n.translate? (f.changeAll changes)).map fun (e, _) => (e, f)
  | .inOrder l => (Node.translateAll? f l).map fun (es, g) => (.sequence es, g)
  | .oneOf l => (Node.translateAll? f l).map fun (es, g) => (.choice l.length es, g)

def Node.translateAll? (f : Flags) : List Node → Option (List Expression × Flags)
  | [] => some ([], f)
  | n :: rest => (n.translate? f).bind fun (e, g) =>
    (Node.translateAll? g rest).map fun (es, h) => (e :: es, h)

end

end DesignLint.Format
