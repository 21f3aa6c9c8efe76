import DesignLint.Check.Basic
import DesignLint.Run.Result

/-! # Scripted checks -/

namespace DesignLint

inductive Target
  /-- The node at a place of a kind; a place below zero counts from the end. -/
  | node (kind : String) (place : Json)
  | subject (s : Subject)

inductive Step
  | report (message : Json) (severity : Json) (target : Target)
  | reportAll (kind : String) (message : Json) (severity : Json)
  | narrower (option : String)
  | option (name : String)
  | ids (kind : String)
  | count
  | closed
  | close
  /-- Fails with a fault, as it leaves the check. -/
  | fail (f : Fault)

namespace Step

/-- The item at a place, counted from the end when it is below zero. -/
def at? {α : Type} (l : List α) (place : Int) : Option α :=
  if 0 ≤ place then l[place.toNat]?
  else if -place ≤ l.length then l[(l.length + place).toNat]?
  else none

/-- The place that a value gives; a flag counts as a number. -/
def place : Json → Except Fault Int
  | .num (.whole n) => if Field.isWordSized n then .ok n else .error .hugePlace
  | .bool b => .ok b.toNat
  | v => .error (.misuse (.noPlace v.typeName))

def item {α : Type} (l : List α) (v : Json) : Except Fault α := do
  match at? l (← place v) with
  | some a => .ok a
  | none => .error .outOfRange

/-- Whether a width is less than a limit; only numbers and truth values have an order with it. -/
def isNarrower (width : Float) (limit : Json) : Except Fault Bool :=
  match limit with
  | .num n => .ok (n.below width)
  | .bool b => .ok (width < (if b then 1 else 0))
  | v => .error (.misuse (.noOrder (Json.float width).typeName v.typeName))

def reportEach (message severity : Json) : List Layer → Check Unit
  | [] => .done ()
  | l :: rest => do
    let _ ← Check.report message l.subject severity
    reportEach message severity rest

def reportNarrower (limit : Json) : List Layer → Check Unit
  | [] => .done ()
  | l :: rest => do
    if ← Check.ofResult (isNarrower l.frame.width limit) then
      let _ ← Check.report (.str "too narrow") l.subject .null
      reportNarrower limit rest
    else reportNarrower limit rest

def check : Step → Check Json
  | report message severity (.subject s) => do
    return (← Check.report message s severity).toJson
  | report message severity (.node kind place) => do
    let l ← Check.ofResult (item ((← Check.objects).nodesNamed kind) place)
    return (← Check.report message l.subject severity).toJson
  | reportAll kind message severity => do
    let nodes := (← Check.objects).nodesNamed kind
    reportEach message severity nodes
    return .whole nodes.length
  | narrower name => do
    let limit ← Check.option name
    reportNarrower limit ((← Check.objects).nodes .anyLayer)
    return .null
  | option name => Check.option name
  | ids kind => do
    return .texts (((← Check.objects).nodesNamed kind).map (·.id))
  | count => do return .whole (← Check.count)
  | closed => do return .bool (← Check.isClosed)
  | close => do
    Check.close
    return .null
  | fail f => .fail f

/-- The check that takes the steps in order and notes what each yields. -/
def script : List Step → Check Unit
  | [] => .done ()
  | step :: rest => do
    Check.note (← step.check)
    script rest

end Step

end DesignLint
