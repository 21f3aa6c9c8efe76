import DesignLint.Field
import DesignLint.Format.Search
import DesignLint.RuleOption.Declaration
import DesignLint.Text.Case

/-! # The schema of a rule -/

namespace DesignLint

/-- The check that an option makes of a value; what it yields is the value that is used. -/
abbrev Acceptor := Json → Checked Json

namespace Acceptor

/-- Whether a float lies within bounds, which one that is no number never does. -/
def boundedFloat (least most : Option Float) (v : Json) (x : Float) : Checked Json :=
  match most, least with
  | some b, _ => if x ≤ b then above least else Checked.complain (.above (.float b)) v
  | none, _ => above least
where
  above : Option Float → Checked Json
    | some b => if b ≤ x then .ok (.float x) else Checked.complain (.below (.float b)) v
    | none => .ok (.float x)

/-- Texts, in characters at most `most` and at least `least` long, that match the pattern. -/
def text (least most : Option Nat) (pattern : Option (String × Format.Expression)) :
    Acceptor := fun v =>
  match v with
  | .str s =>
    if (most.map fun n => decide (n < s.length)).getD false then
      Checked.complain (.longText (most.getD 0)) v
    else if (least.map fun n => decide (s.length < n)).getD false then
      Checked.complain (.shortText (least.getD 0)) v
    else match pattern with
      | some (p, e) => if e.isFoundIn s then .ok v else Checked.complain (.unmatched p) v
      | none => .ok v
  | _ => Checked.complain .notText v

def number (least most : Option Float) : Acceptor := fun v =>
  match v with
  | .num (.float x) => boundedFloat least most v x
  | .num (.whole n) => match Number.nearest? n with
    | some x => boundedFloat least most v x
    | none => Checked.complain .notNumber v
  | _ => Checked.complain .notNumber v

def integer (least most : Option Int) : Acceptor := fun v =>
  match v with
  | .num (.whole n) =>
    match most.filter (· < n), least.filter (n < ·) with
    | some b, _ => Checked.complain (.above (.whole b)) v
    | none, some b => Checked.complain (.below (.whole b)) v
    | none, none => .ok v
  | _ => Checked.complain .notWhole v

def boolean : Acceptor := fun v => (Field.strictFlag v).map .bool

def items (item : Acceptor) (i : Nat) : List Json → Checked (List Json)
  | [] => .ok []
  | v :: rest =>
    (Checked.both ((item v).within (.index i)) (items item (i + 1) rest)).map fun p => p.1 :: p.2

/-- Arrays of items. One that is too long is not looked into; one with bad items is not counted. -/
def array (item : Acceptor) (least most : Option Nat) : Acceptor := fun v =>
  match v with
  | .arr l =>
    if (most.map fun n => decide (n < l.length)).getD false then
      Checked.complain (.longList (most.getD 0) l.length) v
    else match items item 0 l with
      | .error p => .error p
      | .ok l =>
        if (least.map fun n => decide (l.length < n)).getD false then
          Checked.complain (.shortList (least.getD 0) l.length) v
        else .ok (.arr l)
  | _ => Checked.complain .notList v

/-! ## Constraints -/

/-- A constraint that a declaration states, read leniently. -/
def stated {α : Type} (read : Json → Checked α) (v : Json) : Except Fault (Option α) :=
  (Field.optional read v).mapError fun _ => .constraint v.display

/-- The numbers that lengths are less than. -/
def lengthLimit : Int := 0x10000000000000000

def length (v : Json) : Checked Nat :=
  (Field.whole v).bind fun n =>
    if 0 ≤ n && n < lengthLimit then .ok n.toNat else Checked.complain .wholeSize v

def pattern (v : Json) : Checked (String × Format.Expression) :=
  (Field.text v).bind fun s => match Format.compile? s with
    | some e => .ok (s, e)
    | none => Checked.complain (.unmatched s) v

def ofDeclaration (d : Declaration) : Except Fault Acceptor :=
  match d.type with
  | .string => do
    return text (← stated length d.minLength) (← stated length d.maxLength)
      (← stated pattern d.pattern)
  | .number => do return number (← stated Field.float d.minimum) (← stated Field.float d.maximum)
  | .integer => do return integer (← stated Field.whole d.minimum) (← stated Field.whole d.maximum)
  | .boolean => .ok boolean
  | .stringArray => do
    return array (text none none (← stated pattern d.pattern)) (← stated length d.minLength)
      (← stated length d.maxLength)
  | .numberArray => do
    return array (number (← stated Field.float d.minimum) (← stated Field.float d.maximum))
      (← stated length d.minLength) (← stated length d.maxLength)
  | .unknown name => .error (.optionType name)

end Acceptor

/-- The checks of the declared options, in order and by name. -/
structure Schema where
  name : String
  fields : List (String × Acceptor)

namespace Schema

def nameParts (s : String) : List String :=
  (s.toList.map fun c => if c = '/' then '-' else c).splitOn '-' |>.map String.ofList

/-- The name of the schema of a rule: the capitalised parts of the rule's name in one word. -/
def nameOf (rule : String) : String :=
  String.join ((nameParts rule).map Text.title) ++ "Options"

/-- The schema of a rule. An unknown type is noticed first, then a bad name, and last a bad
constraint. -/
def compile (rule : String) (declared : List Declaration) : Except Fault Schema :=
  match declared.find? fun d => !d.type.isKnown with
  | some d => .error (.optionType d.type.name)
  | none =>
    if (nameOf rule).toList.contains '\x00' then .error .schemaName
    else
      (declared.mapM fun d => (Acceptor.ofDeclaration d).map fun a => (d.name, a)).map
        fun fields => ⟨nameOf rule, fields⟩

/-- The checked value of one option; nothing when none is supplied. -/
def checkField (supplied : Keyed Json) (name : String) (a : Acceptor) :
    Checked (Option (String × Json)) :=
  match supplied.get? name with
  | some v => Checked.within (.key name) ((a v).map fun w => some (name, w))
  | none => .ok none

def check (s : Schema) (supplied : Keyed Json) : Checked (Keyed Json) :=
  (Checked.all (s.fields.map fun f => checkField supplied f.1 f.2)).map fun l =>
    Keyed.ofPairs (l.filterMap fun e => e)

end Schema

end DesignLint
