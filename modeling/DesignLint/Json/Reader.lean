import DesignLint.Json.Value
import DesignLint.Number.Grammar

/-!
# Reading JSON text

The reader counts characters, so that each fault names its place. A text holds no halves of
surrogate pairs: where one is escaped on its own, the replacement character stands for it.
-/

namespace DesignLint.Json

namespace Reader

inductive Cause
  | value
  | name
  | colon
  | comma
  | extra
  | control
  | escape
  | codeEscape
  | unterminated
  | byteOrderMark

def Cause.text : Cause → String
  | value => "Expecting value"
  | name => "Expecting property name enclosed in double quotes"
  | colon => "Expecting ':' delimiter"
  | comma => "Expecting ',' delimiter"
  | extra => "Extra data"
  | control => "Invalid control character at"
  | escape => "Invalid \\escape"
  | codeEscape => "Invalid \\uXXXX escape"
  | unterminated => "Unterminated string starting at"
  | byteOrderMark => "Unexpected UTF-8 BOM (decode using utf-8-sig)"

/-- A place in a text; lines and columns count from one. -/
structure Place where
  line : Nat
  column : Nat
  offset : Nat

def Place.of (text : List Char) (offset : Nat) : Place :=
  let before := text.take offset
  ⟨before.count '\n' + 1, (before.reverse.takeWhile (· ≠ '\n')).length + 1, offset⟩

def Place.text (p : Place) : String :=
  "line " ++ toString p.line ++ " column " ++ toString p.column ++
    " (char " ++ toString p.offset ++ ")"

/-- A fault met at an offset, or a whole number with too many digits. -/
inductive Fault
  | broken (cause : Cause) (offset : Nat)
  | digits (count : Nat)

/-- The part of the text that is still to be read, and how many characters come before it. -/
structure Cursor where
  offset : Nat
  rest : List Char

namespace Cursor

def skip (c : Cursor) (n : Nat) : Cursor := ⟨c.offset + n, c.rest.drop n⟩

def isBlank (c : Char) : Bool := c = ' ' || c = '\t' || c = '\n' || c = '\r'

def skipBlanks (c : Cursor) : Cursor := c.skip (c.rest.takeWhile isBlank).length

end Cursor

def hexValue? (c : Char) : Option Nat :=
  if '0' ≤ c ∧ c ≤ '9' then some (c.toNat - 48)
  else if 'a' ≤ c ∧ c ≤ 'f' then some (c.toNat - 87)
  else if 'A' ≤ c ∧ c ≤ 'F' then some (c.toNat - 55)
  else none

def hexFour? (s : List Char) : Option Nat :=
  match s with
  | a :: b :: c :: d :: _ => do
    let a ← hexValue? a
    let b ← hexValue? b
    let c ← hexValue? c
    let d ← hexValue? d
    some (((a * 16 + b) * 16 + c) * 16 + d)
  | _ => none

def isHighSurrogate (n : Nat) : Bool := 0xd800 ≤ n && n ≤ 0xdbff

def isLowSurrogate (n : Nat) : Bool := 0xdc00 ≤ n && n ≤ 0xdfff

/-- The character of a code unit; half of a pair on its own has none and is replaced. -/
def unitChar (n : Nat) : Char :=
  if 0xd800 ≤ n && n ≤ 0xdfff then Char.ofNat 0xfffd else Char.ofNat n

def pairChar (high low : Nat) : Char :=
  Char.ofNat (0x10000 + (high - 0xd800) * 0x400 + (low - 0xdc00))

/-- The escape `\uXXXX` whose digits start `s`; its `u` stands at `offset`. Two escapes may form one
character. The result counts the characters read after the `u`. -/
def codeEscape (offset : Nat) (s : List Char) : Except Fault (Char × Nat) :=
  if s.length < 5 then .error (.broken .codeEscape offset)
  else match hexFour? s with
    | none => .error (.broken .codeEscape offset)
    | some high =>
      match isHighSurrogate high, s.drop 4 with
      | true, '\\' :: 'u' :: more =>
        if more.length < 5 then .ok (unitChar high, 4)
        else match hexFour? more with
          | none => .error (.broken .codeEscape (offset + 6))
          | some low =>
            if isLowSurrogate low then .ok (pairChar high low, 10) else .ok (unitChar high, 4)
      | _, _ => .ok (unitChar high, 4)

/-- The escape that follows a backslash at `offset` in a text opened at `start`. -/
def escape (start offset : Nat) (s : List Char) : Except Fault (Char × Nat) :=
  match s with
  | [] => .error (.broken .unterminated start)
  | '"' :: _ => .ok ('"', 1)
  | '\\' :: _ => .ok ('\\', 1)
  | '/' :: _ => .ok ('/', 1)
  | 'b' :: _ => .ok (Char.ofNat 8, 1)
  | 'f' :: _ => .ok (Char.ofNat 12, 1)
  | 'n' :: _ => .ok ('\n', 1)
  | 'r' :: _ => .ok ('\r', 1)
  | 't' :: _ => .ok ('\t', 1)
  | 'u' :: rest => (codeEscape (offset + 1) rest).map fun e => (e.1, e.2 + 1)
  | _ => .error (.broken .escape offset)

/-- The rest of a text opened at `start`: `skipped` more characters belong to an escape, and `read`
holds the characters so far, the last one first. -/
def textFrom (start : Nat) : Nat → Nat → List Char → List Char → Except Fault (String × Cursor)
  | _, _, _, [] => .error (.broken .unterminated start)
  | offset, skipped + 1, read, _ :: rest => textFrom start (offset + 1) skipped read rest
  | offset, 0, read, c :: rest =>
    if c = '"' then .ok (String.ofList read.reverse, ⟨offset + 1, rest⟩)
    else if c = '\\' then
      match escape start offset rest with
      | .error f => .error f
      | .ok (d, n) => textFrom start (offset + 1) n (d :: read) rest
    else if c.toNat < 0x20 then .error (.broken .control offset)
    else textFrom start (offset + 1) 0 (c :: read) rest

def fractionDigits : List Char → List Char
  | '.' :: rest => rest.takeWhile Char.isDigit
  | _ => []

/-- The sign of an exponent as its length and whether it is negative. -/
def exponentSign : List Char → Nat × Bool
  | '-' :: _ => (1, true)
  | '+' :: _ => (1, false)
  | _ => (0, false)

/-- The exponent as its length and its value; length zero when there is none. -/
def exponent (s : List Char) : Nat × Int :=
  match s with
  | e :: rest =>
    let sign := exponentSign rest
    let ds := (rest.drop sign.1).takeWhile Char.isDigit
    if (e = 'e' ∨ e = 'E') ∧ ds ≠ [] then
      (1 + sign.1 + ds.length,
        if sign.2 then -(Number.natOfDigits ds : Int) else Number.natOfDigits ds)
    else (0, 0)
  | [] => (0, 0)

/-- The digits before the point: a zero, or digits that start with another one. -/
def wholeDigits (s : List Char) : List Char :=
  match s with
  | '0' :: _ => ['0']
  | _ => s.takeWhile Char.isDigit

def number (c : Cursor) : Except Fault (Json × Cursor) :=
  let negative := c.rest.head? == some '-'
  let s := if negative then c.rest.drop 1 else c.rest
  let before := wholeDigits s
  let after := s.drop before.length
  let fraction := fractionDigits after
  let fractionLength := if fraction.isEmpty then 0 else fraction.length + 1
  let power := exponent (after.drop fractionLength)
  let next := c.skip ((if negative then 1 else 0) + before.length + fractionLength + power.1)
  if before.isEmpty then .error (.broken .value c.offset)
  else if fraction.isEmpty ∧ power.1 = 0 then
    if Number.digitLimit < before.length then .error (.digits before.length)
    else
      let n : Int := Number.natOfDigits before
      .ok (whole (if negative then -n else n), next)
  else
    let digits := Number.natOfDigits (before ++ fraction)
    .ok (float (Number.ofDecimal negative digits (power.2 - fraction.length)), next)

def words : List (String × Json) := [
  ("null", .null), ("true", .bool true), ("false", .bool false),
  ("NaN", .float Number.undefined), ("Infinity", .float Number.infinity),
  ("-Infinity", .float (-Number.infinity))]

def word? (c : Cursor) : Option (Json × Cursor) :=
  (words.find? fun w => w.1.toList.isPrefixOf c.rest).map fun w => (w.2, c.skip w.1.length)

mutual

def value : Nat → Cursor → Except Fault (Json × Cursor)
  | 0, c => .error (.broken .value c.offset)
  | fuel + 1, c =>
    match c.rest with
    | [] => .error (.broken .value c.offset)
    | '"' :: rest => (textFrom c.offset (c.offset + 1) 0 [] rest).map fun r => (.str r.1, r.2)
    | '[' :: rest =>
      let inside := Cursor.skipBlanks ⟨c.offset + 1, rest⟩
      match inside.rest with
      | ']' :: _ => .ok (.arr [], inside.skip 1)
      | _ => (items fuel inside []).map fun r => (.arr r.1, r.2)
    | '\x7b' :: rest =>
      let inside := Cursor.skipBlanks ⟨c.offset + 1, rest⟩
      match inside.rest with
      | '\x7d' :: _ => .ok (.obj [], inside.skip 1)
      | _ => (members fuel inside []).map fun r => (.obj r.1, r.2)
    | _ =>
      match word? c with
      | some r => .ok r
      | none => number c

/-- The items of an array up to its bracket; `read` holds those before the cursor, the last one
first. -/
def items : Nat → Cursor → List Json → Except Fault (List Json × Cursor)
  | 0, c, _ => .error (.broken .value c.offset)
  | fuel + 1, c, read =>
    match value fuel c with
    | .error f => .error f
    | .ok (v, next) =>
      let next := next.skipBlanks
      match next.rest with
      | ']' :: _ => .ok ((v :: read).reverse, next.skip 1)
      | ',' :: _ => items fuel (next.skip 1).skipBlanks (v :: read)
      | _ => .error (.broken .comma next.offset)

def members : Nat → Cursor → Keyed Json → Except Fault (Keyed Json × Cursor)
  | 0, c, _ => .error (.broken .value c.offset)
  | fuel + 1, c, read =>
    match c.rest with
    | '"' :: rest =>
      match textFrom c.offset (c.offset + 1) 0 [] rest with
      | .error f => .error f
      | .ok (k, next) =>
        let next := next.skipBlanks
        match next.rest with
        | ':' :: _ =>
          match value fuel (next.skip 1).skipBlanks with
          | .error f => .error f
          | .ok (v, next) =>
            let next := next.skipBlanks
            match next.rest with
            | '\x7d' :: _ => .ok (Keyed.put read k v, next.skip 1)
            | ',' :: _ => members fuel (next.skip 1).skipBlanks (Keyed.put read k v)
            | _ => .error (.broken .comma next.offset)
        | _ => .error (.broken .colon next.offset)
    | _ => .error (.broken .name c.offset)

end

def whole (text : List Char) : Except Fault Json :=
  match value (2 * text.length + 2) (Cursor.skipBlanks ⟨0, text⟩) with
  | .error f => .error f
  | .ok (v, next) =>
    let last := next.skipBlanks
    match last.rest with
    | [] => .ok v
    | _ => .error (.broken .extra last.offset)

def isMarked (text : List Char) : Bool := text.head?.any (·.toNat = 0xfeff)

end Reader

inductive Unreadable
  | broken (cause : Reader.Cause) (place : Reader.Place)
  | digits (count : Nat)

def Unreadable.text : Unreadable → String
  | broken cause place => cause.text ++ ": " ++ place.text
  | digits count => Number.excessText count

def readPlain (text : List Char) : Except Unreadable Json :=
  match Reader.whole text with
  | .ok v => .ok v
  | .error (.broken cause offset) => .error (.broken cause (Reader.Place.of text offset))
  | .error (.digits count) => .error (.digits count)

/-- The value that a text spells. A byte order mark is no part of a text. -/
def read (text : List Char) : Except Unreadable Json :=
  if Reader.isMarked text then .error (.broken .byteOrderMark (Reader.Place.of text 0))
  else readPlain text

end DesignLint.Json
