import DesignLint.Bundled.TextFont
import DesignLint.Check.Options
import DesignLint.Check.Raise
import DesignLint.Measure
import DesignLint.Rule.Basic

/-! # Weights of fonts -/

namespace DesignLint.FontWeight

def name : String := "ios-accessibility-assistant/font-weights-allowed"

def allowedText (options : Keyed Json) : Except Fault String :=
  let v := (options.get? "pattern").getD .null
  if v.isGiven then (Fault.joinable v).map (", ".intercalate ·) else .ok ""

def isAllowed (allowed : List String) (font : Font) : Bool :=
  match fontWeight? font.name with
  | some w => allowed.contains w
  | none => false

def weightText (font : Font) : String :=
  match fontWeight? font.name with
  | some w => if w.isEmpty then "no weight" else w
  | none => "no weight"

def message (allowed : List String) (font : Font) : String :=
  "Text Layer is using “" ++ weightText font ++ "”. The only allowed weights are ”" ++
    ", ".intercalate allowed ++ "”"

def verdict (allowed : List String) (l : Layer) : Except Fault (List String) :=
  (textFont l).map fun font => if isAllowed allowed font then [] else [message allowed font]

def check : Check Unit := do
  let allowed ← Check.textsOption "pattern"
  Check.judge (verdict allowed) ((← Check.objects).nodes .text)

def rule : Rule where
  sort := "FontWeightsAllowedRule"
  name := name
  title := .fixed "Incorrect use of font weights"
  description := .derived fun options =>
    (allowedText options).map fun allowed =>
      "Reports a violation when text layer is using a non-acceptable weight (”" ++ allowed ++ "”)"
  options := [
    { name := "pattern", type := .stringArray, title := .str "Allowed weights",
      description := .str "Font weight names allowed after the dash of a PostScript font name",
      minLength := .whole 1 }]
  check := check

end DesignLint.FontWeight
