import DesignLint.Bundled.TextFont
import DesignLint.Check.Options
import DesignLint.Measure
import DesignLint.Rule.Basic
import DesignLint.Text.Search

/-! # Optical sizes -/

namespace DesignLint.OpticalSize

/-! ## What the two rules share -/

def options : List Declaration := [
  { name := "pattern", type := .string, title := .str "Font family",
    description := .str "Display name of the font family this rule checks",
    minLength := .whole 1 }]

/-- The family as the options name it. -/
def familyText (options : Keyed Json) : String := ((options.get? "pattern").getD .null).display

def title : RuleText :=
  .derived fun options => .ok ("Incorrect use of " ++ familyText options ++ " font")

def description : RuleText :=
  .derived fun options =>
    .ok ("Reports a violation when text layers contain an incorrect use of " ++
      familyText options ++ " font")

def message (family cut range : String) (font : Font) : String :=
  "Text Layers using “" ++ family ++ "” should be set as \"" ++ cut ++ "\" at size " ++
    Measure.ofFloat font.size ++ " (or when " ++ range ++ "). Currently using “" ++
    fontFamily font.name ++ "”"

def checkFonts (complaints : Font → List String) : Check Unit := do
  let _ ← Check.option "pattern"
  Check.judge (fun l => (textFont l).map complaints) ((← Check.objects).nodes .text)

/-! ## San Francisco -/

namespace SanFrancisco

def name : String := "ios-accessibility-assistant/sf-disallow"

def family : String := "San Francisco"

def marker : String := "SF"

/-- The size from which on the cut for display is used. -/
def displaySize : Nat := 20

def displayFloat : Float := 20

def complaints (font : Font) : List String :=
  if !Text.holds font.name marker then []
  else
    (if font.size < displayFloat && !Text.holds font.name "Text" then
      [message family "Text" ("smaller than " ++ toString displaySize ++ " points") font]
    else []) ++
    (if displayFloat ≤ font.size && !Text.holds font.name "Display" then
      [message family "Display" (toString displaySize ++ " points or larger") font]
    else [])

def rule : Rule where
  sort := "SanFranciscoOpticalSizeRule"
  name := name
  title := title
  description := description
  options := options
  check := checkFonts complaints

end SanFrancisco

/-! ## New York -/

namespace NewYork

def name : String := "ios-accessibility-assistant/ny-disallow"

def family : String := "New York"

def marker : String := "NewYork"

/-- A cut: the sizes it is for, the face that names it in a font, its name and the text of its
sizes. -/
structure Cut where
  applies : Float → Bool
  face : String
  label : String
  range : String

def cuts : List Cut := [
  ⟨fun size => size < 20, "Small", "Small", "smaller than 20 points"⟩,
  ⟨fun size => 20 ≤ size && size ≤ 35, "Regular", "Medium", "between 20 and 35 points"⟩,
  ⟨fun size => 36 ≤ size && size ≤ 53, "Large", "Large", "between 36 and 53 points"⟩,
  ⟨fun size => 54 ≤ size, "ExtraLarge", "Extra Large", "54 points or larger"⟩]

/-- The cuts that a font should have and has not. -/
def missing (font : Font) : List Cut :=
  if Text.holds font.name marker then
    cuts.filter fun c => c.applies font.size && !Text.holds font.name c.face
  else []

def complaints (font : Font) : List String :=
  (missing font).map fun c => message family c.label c.range font

def rule : Rule where
  sort := "NewYorkOpticalSizeRule"
  name := name
  title := title
  description := description
  options := options
  check := checkFonts complaints

end NewYork

end DesignLint.OpticalSize
