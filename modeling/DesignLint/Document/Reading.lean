import DesignLint.Document.Layer
import DesignLint.Fault
import DesignLint.Field

/-!
# Reading documents

All problems are collected, in the order of the fields. Below pages the class of a node picks its
form.
-/

namespace DesignLint

/-- Why a tree of layers cannot be read. -/
inductive Rejection
  | problems (l : List Problem)
  /-- A class that is a container, of the kind named, picks no form. -/
  | unusableClass (kind : String)

abbrev Reading (α : Type) := Except Rejection α

namespace Reading

/-- Both values, or the problems of both; an unusable class outweighs problems. -/
def both {α β : Type} (a : Reading α) (b : Reading β) : Reading (α × β) :=
  match a, b with
  | .ok x, .ok y => .ok (x, y)
  | .ok _, .error q => .error q
  | .error p, .ok _ => .error p
  | .error (.problems p), .error (.problems q) => .error (.problems (p ++ q))
  | .error (.unusableClass k), _ => .error (.unusableClass k)
  | _, .error (.unusableClass k) => .error (.unusableClass k)

def ofChecked {α : Type} (r : Checked α) : Reading α := r.mapError .problems

def within {α : Type} (s : Segment) (r : Reading α) : Reading α :=
  r.mapError fun
    | .problems l => .problems (l.map (·.within s))
    | .unusableClass k => .unusableClass k

end Reading

namespace Rect

def read (v : Json) : Checked Rect :=
  Field.record "Rect" (fun r =>
    (Checked.both (Field.defaulted ["x"] Field.float 0 r)
      (Checked.both (Field.defaulted ["y"] Field.float 0 r)
        (Checked.both (Field.required ["width"] (Field.floatFrom (.whole 0)) r)
          (Field.required ["height"] (Field.floatFrom (.whole 0)) r)))).map
      fun (x, y, width, height) => ⟨x, y, width, height⟩) v

end Rect

def Flow.read (v : Json) : Checked Flow :=
  Field.record "FlowConnection" (fun r =>
    (Checked.both
      (Field.required ["destinationArtboardID", "destination_artboard_id"] Field.text r)
      (Field.defaulted ["animationType", "animation_type"] (Field.optional Field.whole) none r)).map
      fun (destination, animation) => ⟨destination, animation⟩) v

def Font.read (v : Json) : Checked Font :=
  Field.record "FontAttributes" (fun r =>
    (Checked.both (Field.required ["name"] Field.text r)
      (Field.required ["size"] Field.float r)).map fun (name, size) => ⟨name, size⟩) v

def Font.readWrapped (v : Json) : Checked Font :=
  Field.record "FontAttribute" (Field.required ["attributes"] Font.read) v

def TextStyle.read (v : Json) : Checked TextStyle :=
  Field.record "TextStyle"
    (Field.required ["encodedAttributes", "encoded_attributes"]
      (Field.record "EncodedAttributes" fun r =>
        (Field.defaulted ["MSAttributedStringFontAttribute", "font"]
          (Field.optional Font.readWrapped) none r).map fun font => ⟨font⟩)) v

def Style.read (v : Json) : Checked Style :=
  Field.record "Style" (fun r =>
    (Field.defaulted ["textStyle", "text_style"] (Field.optional TextStyle.read) none r).map
      fun text => ⟨text⟩) v

namespace Layer

def readContent (v : Json) : Checked String :=
  Field.record "AttributedString" (Field.defaulted ["string"] Field.text "") v

def classNames : List String := ["_class", "class_"]

def idNames : List String := ["do_objectID", "object_id"]

def readCommon (form : Form) (r : Keyed Json) : Checked Layer :=
  (Checked.both (Field.required classNames Field.nonemptyText r)
    (Checked.both (Field.required idNames Field.nonemptyText r)
      (Checked.both (Field.defaulted ["name"] Field.text "" r)
        (Checked.both (Field.required ["frame"] Rect.read r)
          (Checked.both (Field.defaulted ["isVisible", "is_visible"] Field.flag true r)
            (Checked.both (Field.defaulted ["flow"] (Field.optional Flow.read) none r)
              (Field.defaulted ["style"] (Field.optional Style.read) none r))))))).map
    fun (cls, id, name, frame, isVisible, flow, style) =>
      { form, cls, id, name, frame, isVisible, flow, style, content := none, symbol := none }

/-- The field that layers of the form have beside layers inside them, put into a layer. -/
def readOwn (form : Form) (r : Keyed Json) : Checked (Layer → Layer) :=
  match form with
  | .text =>
    (Field.defaulted ["attributedString", "attributed_string"] readContent "" r).map
      fun content l => { l with content := some content }
  | .symbolInstance => readSymbol
  | .symbolMaster => readSymbol
  | _ => .ok fun l => l
where
  readSymbol : Checked (Layer → Layer) :=
    (Field.defaulted ["symbolID", "symbol_id"] Field.text "" r).map
      fun symbol l => { l with symbol := some symbol }

/-- The form that the class of a layer below a page picks. -/
def formOf (v : Json) : Except Rejection Form :=
  match v with
  | .obj fields =>
    match Keyed.first? fields classNames with
    | some (_, .str s) => .ok ((Form.ofClass.lookup s).getD .plain)
    | some (_, c) => if c.isKey then .ok .plain else .error (.unusableClass c.typeName)
    | none => .ok .plain
  | _ => .ok .plain

def assemble (form : Form) (r : Keyed Json) (layers : Reading (List (Tree Layer))) :
    Reading (Tree Layer) :=
  (Reading.both (Reading.both (.ofChecked (readCommon form r)) layers)
    (.ofChecked (readOwn form r))).map fun ((common, children), own) => .node (own common) children

mutual

def readNode (form : Form) : Json → Reading (Tree Layer)
  | .obj fields =>
    assemble form fields (if form.holdsLayers then readLayersIn fields else .ok [])
  | v => .ofChecked (Checked.complain (.notRecord form.name) v)

def readLayersIn : List (String × Json) → Reading (List (Tree Layer))
  | [] => .ok []
  | (k, v) :: rest =>
    if k = "layers" then Reading.within (.key k) (readLayers v) else readLayersIn rest

def readLayers : Json → Reading (List (Tree Layer))
  | .arr items => readItems 0 items
  | v => .ofChecked (Checked.complain .notList v)

def readItems (i : Nat) : List Json → Reading (List (Tree Layer))
  | [] => .ok []
  | v :: rest =>
    (Reading.both
      (match formOf v with
        | .error r => .error r
        | .ok form => Reading.within (.index i) (Reading.within (.key form.tag) (readNode form v)))
      (readItems (i + 1) rest)).map fun p => p.1 :: p.2

end

end Layer

namespace Document

def readPages (i : Nat) : List Json → Reading (List (Tree Layer))
  | [] => .ok []
  | v :: rest =>
    (Reading.both (Reading.within (.index i) (Layer.readNode .page v))
      (readPages (i + 1) rest)).map fun p => p.1 :: p.2

def readPageList (v : Json) : Reading (List (Tree Layer)) :=
  match v with
  | .arr items => readPages 0 items
  | _ => .ofChecked (Checked.complain .notList v)

def read (r : Keyed Json) : Reading Document :=
  (Reading.both (.ofChecked (Field.defaulted Layer.idNames Field.text "" r))
    (match r.get? "pages" with
      | some v => Reading.within (.key "pages") (readPageList v)
      | none => .ok [])).map fun (id, pages) => ⟨id, pages⟩

end Document

end DesignLint
