import DesignLint.Check.Options
import DesignLint.Measure
import DesignLint.Pattern.Match
import DesignLint.Pattern.Parser
import DesignLint.Rule.Basic
import DesignLint.Text.Case

/-! # Sizes of tap targets -/

namespace DesignLint.TapTarget

/-- Both sides of a frame are at least the minimum. -/
def isLarge (least : Float) (frame : Rect) : Bool := least ≤ frame.width && least ≤ frame.height

def title (subject : String) : RuleText :=
  .derived fun options =>
    (Measure.ofJson ((options.get? "min_size").getD (.whole 0))).map fun size =>
      subject ++ " should have a minimum size of " ++ size ++ "×" ++ size

def description : RuleText :=
  .fixed "Small tap areas can cause frustration for people using your app"

def minimum (subject : String) : Declaration :=
  { name := "min_size", type := .number, title := .str "Minimum size",
    description :=
      .str (subject ++ "'s width and height must both be at least the minimum size"),
    minimum := .whole 1 }

/-- What is said of the sides of a frame, with a sign between them, and the minimum. -/
def message (subject sign : String) (least : Float) (frame : Rect) : String :=
  subject ++ " has a size of " ++ Measure.ofFloat frame.width ++ sign ++
    Measure.ofFloat frame.height ++ " (minimum should be " ++ Measure.ofFloat least ++ "×" ++
    Measure.ofFloat least ++ ")"

/-! ## Symbols -/

namespace Symbol

def name : String := "appibilities/symbols-min-size"

def readPattern (p : String) : Except Fault Pattern.Node :=
  match Pattern.parse p with
  | .ok node => .ok node
  | .error .hugeRepeat => .error .hugeRepeat
  | .error (.broken cause offset) => .error (.pattern p cause offset)

/-- Whether a layer is a small symbol whose name, in lower case, matches. -/
def isBad (least : Float) (pattern : Pattern.Node) (l : Layer) : Bool :=
  pattern.isFoundIn (Text.lower l.name) && !isLarge least l.frame

def verdict (least : Float) (pattern : Pattern.Node) (l : Layer) : Except Fault (List String) :=
  .ok (if isBad least pattern l then [message "Symbol instance" "x" least l.frame] else [])

def check : Check Unit := do
  let least ← Check.floatOption "min_size"
  let pattern ← Check.ofResult (readPattern (← Check.textOption "name_pattern"))
  Check.judge (verdict least pattern) ((← Check.objects).nodes .symbolInstance)

def rule : Rule where
  sort := "SymbolsMinSizeRule"
  name := name
  title := title "Symbol instances"
  description := description
  options := [
    minimum "A tappable area",
    { name := "name_pattern", type := .string, title := .str "Layer name pattern",
      description := .str "Name pattern to match symbol instance layers" }]
  check := check

end Symbol

/-! ## Interactive layers -/

namespace Interactive

def name : String := "appibilities/interactive-element-min-size"

def isBad (least : Float) (l : Layer) : Bool := l.isInteractive && !isLarge least l.frame

def verdict (least : Float) (l : Layer) : Except Fault (List String) :=
  .ok (if isBad least l then [message "Interactive element" "×" least l.frame] else [])

def check : Check Unit := do
  let least ← Check.floatOption "min_size"
  Check.judge (verdict least) ((← Check.objects).nodes .anyLayer)

def rule : Rule where
  sort := "InteractiveElementMinSizeRule"
  name := name
  title := title "Interactive elements"
  description := description
  options := [minimum "An interactive element"]
  check := check

end Interactive

end DesignLint.TapTarget
