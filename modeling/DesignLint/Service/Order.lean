import DesignLint.Field
import DesignLint.Json.Encoding
import DesignLint.Service.Message

/-! # Orders -/

namespace DesignLint.Service

structure Order where
  document : Keyed Json
  overrides : Keyed Json

/-- Why a body is no order. -/
inductive OrderFault
  /-- The body is no text, or holds a number that is too long. -/
  | unreadable
  | problems (l : List Problem)

namespace OrderFault

def response : OrderFault → Response
  | unreadable => .refused 400 "There was an error parsing the body"
  | problems l => .ofProblems l

end OrderFault

namespace Order

/-- The configurations by the names of rules; each has to be an object. -/
def overrideFields : List (String × Json) → Checked (Keyed Json)
  | [] => .ok []
  | (k, v) :: rest =>
    (Checked.both ((Field.object v).within (.key k)) (overrideFields rest)).map fun p =>
      (k, .obj p.1) :: p.2

def overridesOf (v : Json) : Checked (Keyed Json) := (Field.object v).bind overrideFields

def ofFields (r : Keyed Json) : Checked Order :=
  (Checked.both (Field.required ["document"] Field.object r)
    (Field.defaulted ["rules"] overridesOf [] r)).map fun (document, overrides) =>
      ⟨document, overrides⟩

def ofValue (v : Json) : Checked Order :=
  match v with
  | .obj fields => ofFields fields
  | _ => Checked.complain .notFields v

def notJson (cause : Json.Reader.Cause) (offset : Nat) : Problem :=
  ⟨[.index offset], .notJson cause.text, .obj []⟩

/-- The order in a body; an empty body is a missing one. -/
def read (body : List Nat) : Except OrderFault Order :=
  if body.isEmpty then checked (Checked.complain .missing .null)
  else match Json.readBytes? body with
    | none => .error .unreadable
    | some (.error (.broken cause place)) => checked (.error [notJson cause place.offset])
    | some (.error (.digits _)) => .error .unreadable
    | some (.ok v) => checked (ofValue v)
where
  checked (r : Checked Order) : Except OrderFault Order :=
    (Checked.within (.key "body") r).mapError .problems

end Order

end DesignLint.Service
