import DesignLint.Check.Options
import DesignLint.Measure
import DesignLint.Rule.Basic

/-! # Sizes of artboards -/

namespace DesignLint.ArtboardSize

def name : String := "appibilities/artboards-allowed-sizes"

def options : List Declaration := [
  { name := "sizes", type := .stringArray, title := .str "Allowed sizes",
    description := .str ("Artboard sizes that are allowed, for example 375x812. " ++
      "Portrait and landscape formats must be defined separately"),
    minLength := .whole 1 },
  { name := "allow_exceeding_height", type := .boolean, title := .str "Allow exceeding height",
    description := .str ("Artboards exceeding the allowed artboard height may be allowed for " ++
      "scrollable content"),
    fallback := some (.bool false) }]

def fits (exceeding : Bool) (frame : Rect) (s : Size) : Bool :=
  s.width == frame.width &&
    if exceeding then s.height ≤ frame.height else frame.height == s.height

def isAllowed (exceeding : Bool) (sizes : List Size) (frame : Rect) : Bool :=
  sizes.any (fits exceeding frame)

def message (frame : Rect) : String :=
  Measure.ofFloat frame.width ++ "×" ++ Measure.ofFloat frame.height ++ " is not an allowed size"

def verdict (exceeding : Bool) (sizes : List Size) (l : Layer) : Except Fault (List String) :=
  .ok (if isAllowed exceeding sizes l.frame then [] else [message l.frame])

def check : Check Unit := do
  let exceeding ← Check.flagOption "allow_exceeding_height"
  let sizes ← Check.ofResult ((← Check.textsOption "sizes").mapM Size.parse)
  Check.judge (verdict exceeding sizes) ((← Check.objects).nodes .artboard)

def rule : Rule where
  sort := "ArtboardsAllowedSizesRule"
  name := name
  title := .fixed "Artboards should use one of the allowed sizes"
  description := .fixed ("For more realistic user interface designs it can be helpful " ++
    "to use a predefined list of view sizes")
  options := options
  check := check

end DesignLint.ArtboardSize
