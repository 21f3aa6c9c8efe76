import DesignLint.Fault

/-! # Faults that checks state -/

namespace DesignLint.Fault

/-- The text of the arguments of a fault; one that is a missing key is quoted. -/
def argumentText (name : String) : List Json → String
  | [] => ""
  | [v] => if name = "KeyError" then v.literal else v.display
  | args => "(" ++ ", ".intercalate (args.map Json.literal) ++ ")"

/-- The texts that are joined into one: those of an array, or the characters of a text. -/
def joinable (v : Json) : Except Fault (List String) :=
  match v with
  | .str s => .ok (s.toList.map Char.toString)
  | .arr l => go 0 l
  | .obj fields => .ok (Keyed.keys fields)
  | _ => .error (.misuse .noTexts)
where
  go (i : Nat) : List Json → Except Fault (List String)
    | [] => .ok []
    | .str s :: rest => (go (i + 1) rest).map (s :: ·)
    | u :: _ => .error (.misuse (.noJoin i u.typeName))

/-- A fault with exactly two arguments, here with another number of them. -/
def pairExpected (name second : String) : List Json → Fault
  | [] => .misuse (.arguments name ["rule_name", second])
  | [_] => .misuse (.arguments name [second])
  | args => .misuse (.tooMany name 3 3 (args.length + 1))

def aboutRule (name text : String) (rule : Json) (rest : Keyed Json) : Fault :=
  .option (.stated name text (("rule_name", rule) :: rest))

/-- The names of faults that have nothing but the text of their arguments. -/
def plainNames : List String := [
  "AppibilitiesError", "ConfigFileInvalid", "DuplicateRule", "ContextClosed", "Exception",
  "ArithmeticError", "AssertionError", "AttributeError", "IndexError", "KeyError", "LookupError",
  "NotImplementedError", "OverflowError", "RecursionError", "RuntimeError", "TypeError",
  "ValueError", "ZeroDivisionError", "KeyboardInterrupt", "SystemExit"]

/-- The fault that a name and arguments stand for. A name that stands for none is a missing key. -/
def raised (name : String) (args : List Json) : Fault :=
  match name, args with
  | "DocumentMalformed", [m] => .document (.stated m.display .null)
  | "DocumentMalformed", [m, p] => .document (.stated m.display p)
  | "DocumentMalformed", [] => .misuse (.arguments name ["message"])
  | "DocumentMalformed", _ => .misuse (.tooMany name 2 3 (args.length + 1))
  | "RuleOptionError", [r, m] => aboutRule name m.display r []
  | "RuleOptionError", _ => pairExpected name "message" args
  | "OptionNotDeclared", [r, o] =>
    aboutRule name (OptionFault.notDeclaredText r.display o.display) r [("option_name", o)]
  | "OptionNotDeclared", _ => pairExpected name "option_name" args
  | "OptionMissing", [r, o] =>
    aboutRule name (OptionFault.missingText r.display o.display) r [("option_name", o)]
  | "OptionMissing", _ => pairExpected name "option_name" args
  | "OptionValidationFailed", [r, p] =>
    match joinable p with
    | .ok problems =>
      aboutRule name (OptionFault.invalidText r.display problems) r [("problems", p)]
    | .error f => f
  | "OptionValidationFailed", _ => pairExpected name "problems" args
  | _, _ =>
    if plainNames.contains name then .stated name (argumentText name args)
    else .stated "KeyError" (Text.quoted name)

end DesignLint.Fault
