import DesignLint.Tree

/-! # Layers -/

namespace DesignLint

structure Rect where
  x : Float
  y : Float
  width : Float
  height : Float

/-- A link to another artboard. A layer that has one can be tapped. -/
structure Flow where
  destination : String
  animation : Option Int

structure Font where
  name : String
  size : Float

/-- The style of a text; its font may be left open. -/
structure TextStyle where
  font : Option Font

structure Style where
  text : Option TextStyle

inductive Form
  | page
  | artboard
  | group
  | shapeGroup
  | symbolMaster
  | symbolInstance
  | text
  | plain
  deriving DecidableEq

namespace Form

def name : Form → String
  | page => "Page"
  | artboard => "Artboard"
  | group => "Group"
  | shapeGroup => "ShapeGroup"
  | symbolMaster => "SymbolMaster"
  | symbolInstance => "SymbolInstance"
  | text => "Text"
  | plain => "Layer"

def holdsLayers : Form → Bool
  | page => true
  | artboard => true
  | group => true
  | shapeGroup => true
  | symbolMaster => true
  | symbolInstance => false
  | text => false
  | plain => false

/-- The forms below pages that a class picks. -/
def ofClass : List (String × Form) := [
  ("artboard", artboard), ("group", group), ("shapeGroup", shapeGroup),
  ("symbolMaster", symbolMaster), ("symbolInstance", symbolInstance), ("text", text)]

/-- The word for the choice of a form in the path of a problem. -/
def tag (f : Form) : String :=
  match ofClass.find? (·.2 = f) with
  | some e => e.1
  | none => "layer"

def tags : List String := ofClass.map (·.1) ++ ["layer"]

end Form

structure Layer where
  form : Form
  cls : String
  id : String
  name : String
  frame : Rect
  isVisible : Bool
  flow : Option Flow
  style : Option Style
  /-- The text, of text layers only. -/
  content : Option String
  /-- The symbol, of symbol masters and instances only. -/
  symbol : Option String

namespace Layer

def isInteractive (l : Layer) : Bool := l.flow.isSome

def font (l : Layer) : Option Font := do
  let style ← l.style
  let text ← style.text
  text.font

end Layer

structure Document where
  id : String
  pages : List (Tree Layer)

end DesignLint
