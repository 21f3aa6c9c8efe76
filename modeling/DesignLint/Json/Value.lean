import DesignLint.Keyed
import DesignLint.Number.Text
import DesignLint.Text.Quoted

/-! # JSON values -/

namespace DesignLint

inductive Json
  | null
  | bool (b : Bool)
  | num (n : Number)
  | str (s : String)
  | arr (items : List Json)
  | obj (fields : List (String × Json))
  deriving Inhabited

namespace Json

def whole (n : Int) : Json := num (.whole n)

def float (x : Float) : Json := num (.float x)

def texts (l : List String) : Json := arr (l.map str)

def isNull : Json → Bool
  | null => true
  | _ => false

/-- The word for the kind of a value in messages. -/
def typeName : Json → String
  | null => "NoneType"
  | bool _ => "bool"
  | num (.whole _) => "int"
  | num (.float _) => "float"
  | str _ => "str"
  | arr _ => "list"
  | obj _ => "dict"

/-- Whether a value counts as given: it is neither null, false, zero nor empty. -/
def isGiven : Json → Bool
  | null => false
  | bool b => b
  | num n => n.isNonzero
  | str s => !s.isEmpty
  | arr items => !items.isEmpty
  | obj fields => !fields.isEmpty

/-- Whether a value can be a key: containers cannot. -/
def isKey : Json → Bool
  | arr _ => false
  | obj _ => false
  | _ => true

/-- The number that a value counts as: a flag is one or zero. -/
def number? : Json → Option Number
  | bool b => some (.whole b.toNat)
  | num n => some n
  | _ => none

def isSameKey (v w : Json) : Bool :=
  match v, w with
  | str s, str t => s == t
  | null, null => true
  | _, _ => match v.number?, w.number? with
    | some n, some m => n.equals m
    | _, _ => false

def field? (v : Json) (k : String) : Option Json :=
  match v with
  | obj fields => Keyed.get? fields k
  | _ => none

mutual

/-- The text of a value inside another one or in a message: texts are quoted. -/
def literal : Json → String
  | null => "None"
  | bool true => "True"
  | bool false => "False"
  | num n => n.text
  | str s => Text.quoted s
  | arr items => "[" ++ ", ".intercalate (literals items) ++ "]"
  | obj fields => "\x7b" ++ ", ".intercalate (fieldLiterals fields) ++ "\x7d"

def literals : List Json → List String
  | [] => []
  | v :: rest => literal v :: literals rest

def fieldLiterals : List (String × Json) → List String
  | [] => []
  | (k, v) :: rest => (Text.quoted k ++ ": " ++ literal v) :: fieldLiterals rest

end

/-- The text of a value on its own: texts are shown as they are. -/
def display : Json → String
  | str s => s
  | v => literal v

end Json

end DesignLint
