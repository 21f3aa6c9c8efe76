import DesignLint.Number.Reading
import DesignLint.Problem

/-! # Fields -/

namespace DesignLint.Field

/-! ## Lenient fields -/

def text (v : Json) : Checked String :=
  match v with
  | .str s => .ok s
  | _ => Checked.complain .notText v

def nonemptyText (v : Json) : Checked String :=
  match v with
  | .str s => if s.isEmpty then Checked.complain (.shortText 1) v else .ok s
  | _ => Checked.complain .notText v

def trueWords : List String := ["1", "t", "y", "on", "yes", "true"]

def falseWords : List String := ["0", "f", "n", "no", "off", "false"]

/-- The truth value that a text names, in any case of ASCII letters. -/
def flagWord? (s : String) : Option Bool :=
  let w := String.ofList (s.toList.map Char.toLower)
  if trueWords.contains w then some true else if falseWords.contains w then some false else none

/-- Whether `n` is a whole number of 64 bits. -/
def isWordSized (n : Int) : Bool := -0x8000000000000000 ≤ n && n < 0x8000000000000000

/-- Whether a float that is the whole number `n` may stand for it; the least of 64 bits may not. -/
def isFloatSized (n : Int) : Bool := -0x8000000000000000 < n && n < 0x8000000000000000

def flag (v : Json) : Checked Bool :=
  match v with
  | .bool b => .ok b
  | .str s => match flagWord? s with
    | some b => .ok b
    | none => Checked.complain .flagForm v
  | .num (.whole n) => ofWhole n
  | .num (.float x) => match Number.wholeOf? x with
    | some n => if isFloatSized n then ofWhole n else Checked.complain .notFlag v
    | none => Checked.complain .notFlag v
  | _ => Checked.complain .notFlag v
where
  ofWhole (n : Int) : Checked Bool :=
    if n = 0 then .ok false
    else if n = 1 then .ok true
    else Checked.complain (if isWordSized n then .flagForm else .notFlag) v

def whole (v : Json) : Checked Int :=
  match v with
  | .bool b => .ok (if b then 1 else 0)
  | .num (.whole n) => .ok n
  | .num (.float x) =>
    if !x.isFinite then Checked.complain .notFinite v
    else match Number.wholeOf? x with
      | none => Checked.complain .fraction v
      | some n => if isFloatSized n then .ok n else Checked.complain .wholeSize v
  | .str s => match Number.lenientWhole s with
    | .ok n => .ok n
    | .error .form => Checked.complain .wholeForm v
    | .error .size => Checked.complain .wholeSize v
  | _ => Checked.complain .notWhole v

def float (v : Json) : Checked Float :=
  match v with
  | .bool b => .ok (if b then 1 else 0)
  | .num (.whole n) => match Number.nearest? n with
    | some x => .ok x
    | none => Checked.complain .notNumber v
  | .num (.float x) => .ok x
  | .str s => match Number.lenientFloat? s with
    | some x => .ok x
    | none => Checked.complain .numberForm v
  | _ => Checked.complain .notNumber v

/-- A float that is not below `bound`; one that is no number does not do. -/
def floatFrom (bound : Number) (v : Json) : Checked Float :=
  (float v).bind fun x =>
    if bound.toFloat ≤ x then .ok x else Checked.complain (.below bound) v

def optional {α : Type} (read : Json → Checked α) (v : Json) : Checked (Option α) :=
  match v with
  | .null => .ok none
  | _ => (read v).map some

def choice {α : Type} (choices : List (String × α)) (v : Json) : Checked α :=
  match v with
  | .str s => match choices.lookup s with
    | some c => .ok c
    | none => Checked.complain (.notAmong (choices.map (·.1))) v
  | _ => Checked.complain (.notAmong (choices.map (·.1))) v

/-! ## Fields of records -/

/-- The field found under the first present name. -/
def required {α : Type} (names : List String) (read : Json → Checked α) (record : Keyed Json) :
    Checked α :=
  match record.first? names with
  | some (k, v) => (read v).within (.key k)
  | none => (Checked.complain .missing (.obj record)).within (.key (names.headD ""))

/-- The field found under the first present name, else a default. -/
def defaulted {α : Type} (names : List String) (read : Json → Checked α) (value : α)
    (record : Keyed Json) : Checked α :=
  match record.first? names with
  | some (k, v) => (read v).within (.key k)
  | none => .ok value

/-- The fields of an object, or the complaint that it is no record of the name. -/
def record {α : Type} (name : String) (read : Keyed Json → Checked α) (v : Json) : Checked α :=
  match v with
  | .obj fields => read fields
  | _ => Checked.complain (.notRecord name) v

/-! ## Strict fields -/

def strictFlag (v : Json) : Checked Bool :=
  match v with
  | .bool b => .ok b
  | _ => Checked.complain .notFlag v

def object (v : Json) : Checked (Keyed Json) :=
  match v with
  | .obj fields => .ok fields
  | _ => Checked.complain .notObject v

end DesignLint.Field
