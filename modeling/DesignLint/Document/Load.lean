import DesignLint.Document.Reading
import DesignLint.Json.Encoding

/-! # Loading documents -/

namespace DesignLint.Document

inductive Source
  | value (v : Json)
  | text (s : List Char)
  | bytes (b : List Nat)

/-- The place of a problem as a pointer into the document; the words for forms are no part of it. -/
def pointer (path : List Segment) : String :=
  "/" ++ "/".intercalate ((path.filter (!isTag ·)).map Segment.text)
where
  isTag : Segment → Bool
    | .key k => Form.tags.contains k
    | .index _ => false

def rejectionFault : Rejection → Fault
  | .unusableClass kind => .misuse (.noKey kind)
  | .problems l =>
    match l with
    | [] => .document (.stated "" .null)
    | p :: _ => .document (.invalidFields l.length p.complaint (pointer p.path))

def ofFields (r : Keyed Json) : Except Fault Document := (read r).mapError rejectionFault

/-- The document that an object is or wraps. -/
def ofObject (r : Keyed Json) : Except Fault Document :=
  match r.get? "document", r.has "pages" with
  | some (.obj inner), false => ofFields inner
  | some _, false => .error (.document .innerNotObject)
  | _, _ => ofFields r

def ofValue (v : Json) : Except Fault Document :=
  match v with
  | .obj fields => ofObject fields
  | _ => .error (.document (.notObject v.typeName))

def ofRead (r : Except Json.Unreadable Json) : Except Fault Document :=
  match r with
  | .ok v => ofValue v
  | .error (.broken cause place) => .error (.document (.unreadable cause place))
  | .error (.digits count) => .error (.digits count)

def ofText (s : List Char) : Except Fault Document := ofRead (Json.read s)

/-- The document that a source holds; a value that is a text is read. -/
def load : Source → Except Fault Document
  | .value (.str s) => ofText s.toList
  | .value v => ofValue v
  | .text s => ofText s
  | .bytes b =>
    match Json.readBytes? b with
    | some r => ofRead r
    | none => .error .encoding

end DesignLint.Document
