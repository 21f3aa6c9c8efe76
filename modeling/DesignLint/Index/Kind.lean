/-! # Kinds of nodes -/

namespace DesignLint

inductive Kind
  | page
  | artboard
  | group
  | shapeGroup
  | symbolMaster
  | symbolInstance
  | text
  | rectangle
  | oval
  | shapePath
  | bitmap
  | slice
  | hotspot
  /-- Every node whose class is not that of a page. -/
  | anyLayer
  /-- Every node whose class is that of a group of some sort. -/
  | anyGroup
  deriving DecidableEq

namespace Kind

def names : List (Kind × String) := [
  (page, "page"), (artboard, "artboard"), (group, "group"), (shapeGroup, "shape_group"),
  (symbolMaster, "symbol_master"), (symbolInstance, "symbol_instance"), (text, "text"),
  (rectangle, "rectangle"), (oval, "oval"), (shapePath, "shape_path"), (bitmap, "bitmap"),
  (slice, "slice"), (hotspot, "hotspot"), (anyLayer, "any_layer"), (anyGroup, "any_group")]

def all : List Kind := names.map (·.1)

def ofName? (s : String) : Option Kind := (names.find? (·.2 == s)).map (·.1)

/-- The classes that have a specific kind. -/
def classes : List (String × Kind) := [
  ("page", page), ("artboard", artboard), ("group", group), ("shapeGroup", shapeGroup),
  ("symbolMaster", symbolMaster), ("symbolInstance", symbolInstance), ("text", text),
  ("rectangle", rectangle), ("oval", oval), ("shapePath", shapePath), ("bitmap", bitmap),
  ("slice", slice), ("MSImmutableHotspotLayer", hotspot)]

def ofClass? (cls : String) : Option Kind := classes.lookup cls

def pageClass : String := "page"

def groupClasses : List String := ["artboard", "group", "shapeGroup", "symbolMaster"]

end Kind

end DesignLint
