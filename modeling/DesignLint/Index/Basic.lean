import DesignLint.Document.Layer
import DesignLint.Fault
import DesignLint.Index.Buckets

/-! # The index of a document -/

namespace DesignLint

/-- What the index asks of a node. An absent class or id is null. -/
structure NodeView where
  cls : Json
  id : Json
  /-- Width and height, as far as they are there. -/
  frame : Option (Option Json × Option Json)
  deriving Inhabited

/-- Labels of trees that can be indexed. -/
class Viewable (α : Type) where
  view : α → NodeView

export Viewable (view)

instance : Viewable NodeView := ⟨fun v => v⟩

instance : Viewable Layer :=
  ⟨fun l => ⟨.str l.cls, .str l.id,
    some (some (.float l.frame.width), some (.float l.frame.height))⟩⟩

structure Visit (α : Type) where
  node : α
  pointer : String

namespace NodeView

def isNegative (name : String) (side : Option Json) : Except Fault Bool :=
  match side with
  | none => .error (.lacking "frame" name)
  | some v => match v.number? with
    | some n => .ok n.isNegative
    | none => .error (.misuse (.noOrder v.typeName (Json.whole 0).typeName))

/-- Whether there is a frame and none of its sides is negative. The height is looked at last. -/
def hasFrame (v : NodeView) : Except Fault Bool :=
  match v.frame with
  | none => .ok false
  | some (width, height) => do
    if ← isNegative "width" width then return false
    return !(← isNegative "height" height)

def fault? (v : NodeView) (pointer : String) : Option Fault :=
  if !v.cls.isGiven then some (.document (.noClass pointer))
  else if !v.id.isGiven then some (.document (.noId pointer))
  else match v.hasFrame with
    | .ok true => none
    | .ok false => some (.document (.noFrame pointer))
    | .error f => some f

/-- The class, when it is a text. Any other class is an unknown one. -/
def className? (v : NodeView) : Option String :=
  match v.cls with
  | .str s => some s
  | _ => none

end NodeView

/-- The fault of a value that should be a key and is none. -/
def keyFault? (v : Json) : Option Fault :=
  if v.isKey then none else some (.misuse (.noKey v.typeName))

variable {α : Type} [Viewable α]

def pointerIn? (visits : List (Visit α)) (id : Json) : Option String :=
  (visits.find? fun v => (view v.node).id.isSameKey id).map (·.pointer)

def duplicate? (seen : List (Visit α)) (id : Json) (pointer : String) : Option Fault :=
  (pointerIn? seen id).map fun earlier =>
    .document (.duplicateId id.display earlier pointer)

/-- Why a node cannot follow the visited ones. -/
def visitFault? (seen : List (Visit α)) (a : α) (pointer : String) : Option Fault :=
  ((view a).fault? pointer).or ((keyFault? (view a).id).or
    ((duplicate? seen (view a).id pointer).or (keyFault? (view a).cls)))

/-- Trees with pointers, those from the place `i` on under `base`. -/
def placed (base : String) (i : Nat) : List (Tree α) → List (Tree α × String)
  | [] => []
  | t :: ts => (t, base ++ toString i) :: placed base (i + 1) ts

def placedChildren (pointer : String) (ts : List (Tree α)) : List (Tree α × String) :=
  placed (pointer ++ "/layers/") 0 ts

def placedPages (ts : List (Tree α)) : List (Tree α × String) := placed "/pages/" 0 ts

namespace Buckets

/-- With a node among those of its specific kind, if it is of one. -/
def putSpecific (b : Buckets α) (k? : Option Kind) (a : α) : Buckets α :=
  match k? with
  | some k => b.put k a
  | none => b

/-- With a node among those of the general kinds that its class is of. -/
def putGeneral (b : Buckets α) (cls? : Option String) (a : α) : Buckets α :=
  if cls? = some Kind.pageClass then b
  else
    let b := b.put .anyLayer a
    if cls?.any Kind.groupClasses.contains then b.put .anyGroup a else b

def file (b : Buckets α) (a : α) : Buckets α :=
  let cls? := (view a).className?
  (b.putSpecific (cls?.bind Kind.ofClass?) a).putGeneral cls? a

end Buckets

/-- What a walk has gathered so far, the last node first. -/
structure Walk (α : Type) where
  visits : List (Visit α)
  buckets : Buckets α

namespace Walk

def start : Walk α := ⟨[], .empty⟩

def visit (w : Walk α) (a : α) (pointer : String) : Except Fault (Walk α) :=
  match visitFault? w.visits a pointer with
  | some f => .error f
  | none => .ok ⟨⟨a, pointer⟩ :: w.visits, w.buckets.file a⟩

/-- Visits what is on the stack, the first tree first. -/
def run : Nat → List (Tree α × String) → Walk α → Except Fault (Walk α)
  | 0, _, w => .ok w
  | _ + 1, [], w => .ok w
  | fuel + 1, (.node a ts, pointer) :: stack, w => do
    run fuel (placedChildren pointer ts ++ stack) (← w.visit a pointer)

end Walk

/-- The nodes of a document in pre-order, all together and by kind. -/
structure Index (α : Type) where
  visits : List (Visit α)
  buckets : Buckets α

def Walk.index (w : Walk α) : Index α := ⟨w.visits.reverse, w.buckets.reverse⟩

namespace Index

/-- Walks the pages; a document without pages has no index. -/
def build (pages : Option (List (Tree α))) : Except Fault (Index α) :=
  match pages with
  | none => .error (.document .noPages)
  | some ts => (Walk.run (Tree.sizeAll ts) (placedPages ts) .start).map Walk.index

def nodes (x : Index α) (k : Kind) : List α := x.buckets.get k

def nodesNamed (x : Index α) (name : String) : List α :=
  match Kind.ofName? name with
  | some k => x.nodes k
  | none => []

def pointerOf? (x : Index α) (id : Json) : Option String := pointerIn? x.visits id

def size (x : Index α) : Nat := x.visits.length

def counts (x : Index α) : List (Kind × Nat) :=
  (Kind.all.map fun k => (k, (x.nodes k).length)).filter fun e => e.2 ≠ 0

end Index

end DesignLint
