import DesignLint.Assistant.Basic
import DesignLint.Bundled.ArtboardSize
import DesignLint.Bundled.Displays
import DesignLint.Bundled.Ellipsis
import DesignLint.Bundled.FontWeight
import DesignLint.Bundled.OpticalSize
import DesignLint.Bundled.TapTarget

/-! # The bundled assistant -/

namespace DesignLint.Bundled

/-- The smallest side of what can be tapped, in points. -/
def tapTargetSize : Nat := 44

def tappableNames : String := ".*(action|button|btn|cta|icon|link).*"

def fontWeights : List String := ["Regular", "Medium", "Semibold", "Bold"]

def config : Keyed Json := [
  (ArtboardSize.name, .obj [
    ("active", .bool true),
    ("rule_title", .str "Artboards should match any iPhone or iPad display or be taller"),
    ("sizes", .texts Displays.all),
    ("allow_exceeding_height", .bool true)]),
  (TapTarget.Interactive.name, .obj [
    ("active", .bool true),
    ("min_size", .whole tapTargetSize)]),
  (TapTarget.Symbol.name, .obj [
    ("active", .bool true),
    ("rule_title", .str ("Buttons should have a minimum size of " ++
      toString tapTargetSize ++ "x" ++ toString tapTargetSize)),
    ("min_size", .whole tapTargetSize),
    ("name_pattern", .str tappableNames)]),
  (FontWeight.name, .obj [
    ("active", .bool true),
    ("pattern", .texts fontWeights)]),
  (Ellipsis.name, .obj [
    ("active", .bool true)]),
  (OpticalSize.SanFrancisco.name, .obj [
    ("active", .bool true),
    ("pattern", .str OpticalSize.SanFrancisco.family)]),
  (OpticalSize.NewYork.name, .obj [
    ("active", .bool true),
    ("pattern", .str OpticalSize.NewYork.family)])]

def rules : List Rule := [
  ArtboardSize.rule, TapTarget.Symbol.rule, TapTarget.Interactive.rule,
  OpticalSize.SanFrancisco.rule, OpticalSize.NewYork.rule, FontWeight.rule, Ellipsis.rule]

def assistant : Assistant := { name := "appibilities", rules, config }

end DesignLint.Bundled
