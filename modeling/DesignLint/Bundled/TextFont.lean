import DesignLint.Fault
import DesignLint.Document.Layer

/-! # Fonts of text layers -/

namespace DesignLint

/-- The name of the font of a text that has none. -/
def placeholderFont : String := "fontname"

/-- The font of a text layer; layers of other forms have none to ask for. -/
def textFont (l : Layer) : Except Fault Font :=
  match l.form with
  | .text => .ok ⟨fontName, fontSize⟩
  | form => .error (.lacking form.name "font_name")
where
  fontName : String :=
    match l.font with
    | some f => if f.name.isEmpty then placeholderFont else f.name
    | none => placeholderFont
  fontSize : Float :=
    match l.font with
    | some f => if f.size == 0 then 0 else f.size
    | none => 0

def textContent (l : Layer) : Except Fault String :=
  match l.content with
  | some s => .ok s
  | none => .error (.lacking l.form.name "text")

end DesignLint
