import DesignLint.Json.Reader

/-! # JSON in bytes -/

namespace DesignLint.Json

/-- The order of the bytes of a code unit. -/
inductive ByteOrder
  | bigEndian
  | littleEndian

inductive Encoding
  | utf8
  | utf16 (order : ByteOrder)
  | utf32 (order : ByteOrder)

namespace Encoding

def byteOrderMarks : List (List Nat × Encoding) := [
  ([0, 0, 0xfe, 0xff], utf32 .bigEndian), ([0xff, 0xfe, 0, 0], utf32 .littleEndian),
  ([0xfe, 0xff], utf16 .bigEndian), ([0xff, 0xfe], utf16 .littleEndian),
  ([0xef, 0xbb, 0xbf], utf8)]

/-- The encoding shown by the places of the zero bytes. -/
def ofZeros (bytes : List Nat) : Encoding :=
  match bytes with
  | 0 :: 0 :: _ :: _ :: _ => utf32 .bigEndian
  | 0 :: _ :: _ :: _ :: _ => utf16 .bigEndian
  | _ :: 0 :: 0 :: 0 :: _ => utf32 .littleEndian
  | _ :: 0 :: _ :: _ :: _ => utf16 .littleEndian
  | [0, _] => utf16 .bigEndian
  | [_, 0] => utf16 .littleEndian
  | _ => utf8

/-- The encoding and the bytes after the mark. -/
def detect (bytes : List Nat) : Encoding × List Nat :=
  match byteOrderMarks.find? fun m => m.1.isPrefixOf bytes with
  | some (mark, e) => (e, bytes.drop mark.length)
  | none => (ofZeros bytes, bytes)

def bigEndianValue (bytes : List Nat) : Nat := bytes.foldl (fun n b => n * 256 + b) 0

def unitValue : ByteOrder → List Nat → Nat
  | .bigEndian, bytes => bigEndianValue bytes
  | .littleEndian, bytes => bigEndianValue bytes.reverse

def units16? (order : ByteOrder) : List Nat → Option (List Nat)
  | [] => some []
  | a :: b :: rest => (units16? order rest).map (unitValue order [a, b] :: ·)
  | _ => none

def units32? (order : ByteOrder) : List Nat → Option (List Nat)
  | [] => some []
  | a :: b :: c :: d :: rest => (units32? order rest).map (unitValue order [a, b, c, d] :: ·)
  | _ => none

def chars16 : List Nat → List Char
  | [] => []
  | [n] => [Reader.unitChar n]
  | n :: m :: rest =>
    if Reader.isHighSurrogate n && Reader.isLowSurrogate m then Reader.pairChar n m :: chars16 rest
    else Reader.unitChar n :: chars16 (m :: rest)

def chars32? (units : List Nat) : Option (List Char) :=
  if units.all (· < 0x110000) then some (units.map Reader.unitChar) else none

def chars8? (bytes : List Nat) : Option (List Char) :=
  (String.fromUTF8? (ByteArray.mk (bytes.map UInt8.ofNat).toArray)).map String.toList

/-- Bytes in which every half of a pair that is encoded on its own is replaced. -/
def withoutHalves : List Nat → List Nat
  | 0xed :: a :: b :: rest =>
    if 0xa0 ≤ a && a ≤ 0xbf && 0x80 ≤ b && b ≤ 0xbf then 0xef :: 0xbf :: 0xbd :: withoutHalves rest
    else 0xed :: withoutHalves (a :: b :: rest)
  | b :: rest => b :: withoutHalves rest
  | [] => []

/-- The characters that `bytes` encode. Halves of pairs are let through in every encoding. -/
def chars? : Encoding → List Nat → Option (List Char)
  | utf8, bytes => chars8? (withoutHalves bytes)
  | utf16 order, bytes => (units16? order bytes).map chars16
  | utf32 order, bytes => (units32? order bytes).bind chars32?

end Encoding

def decode? (bytes : List Nat) : Option (List Char) :=
  let (encoding, rest) := Encoding.detect bytes
  encoding.chars? rest

/-- The value that bytes spell, or nothing when they encode no text. -/
def readBytes? (bytes : List Nat) : Option (Except Unreadable Json) := (decode? bytes).map readPlain

end DesignLint.Json
