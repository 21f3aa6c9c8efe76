import DesignLint.Check.Basic
import DesignLint.Log

/-! # Contexts -/

namespace DesignLint

/-- What a context gives a check. -/
structure Context where
  rule : String
  index : Index Layer
  options : OptionValues
  severity : Severity

/-- What a check changes. -/
structure Session where
  store : Store
  reported : Nat
  closed : Bool
  log : List LogEntry
  notes : List Json

namespace Session

/-- The start of a context over what is stored already. -/
def start (store : Store) : Session := ⟨store, 0, false, [], []⟩

def record (s : Session) (v : Violation) : Session :=
  { s with
    store := s.store ++ [v]
    reported := s.reported + 1
    log := s.log ++ [.violationReported v.rule v.nodeId] }

def close (s : Session) : Session := { s with closed := true }

def addNote (s : Session) (v : Json) : Session := { s with notes := s.notes ++ [v] }

end Session

namespace Context

/-- The severity of a report: the one given, or else that of the context. -/
def severityOf (c : Context) (given : Json) : Except Fault Severity :=
  if given.isGiven then Severity.ofJson given else .ok c.severity

/-- The pointer of the node with the id of a subject. -/
def pointerOf (c : Context) (id : Json) : Except Fault (Option String) :=
  match keyFault? id with
  | some f => .error f
  | none => .ok (c.index.pointerOf? id)

def violation (c : Context) (message : Json) (subject : Subject) (severity : Json) :
    Except Fault Violation :=
  match subject.id.filter (·.isGiven) with
  | none => .error (.misuse (.noReport subject.kind))
  | some id => do
    let severity ← c.severityOf severity
    let pointer ← c.pointerOf id
    Violation.ofRecord [
      ("rule_name", .str c.rule), ("message", message), ("severity", .str severity.name),
      ("node_id", id), ("node_name", subject.name.getD (.str "")),
      ("node_class", subject.cls.getD (.str "")),
      ("pointer", (pointer.map Json.str).getD .null)]

/-- Reports, unless the context is closed. -/
def report (c : Context) (s : Session) (message : Json) (subject : Subject) (severity : Json) :
    Except Fault Violation × Session :=
  if s.closed then (.error (.contextClosed c.rule), s)
  else match c.violation message subject severity with
    | .ok v => (.ok v, s.record v)
    | .error f => (.error f, s)

def option (c : Context) (s : Session) (name : String) : Except Fault Json :=
  if s.closed then .error (.contextClosed c.rule) else c.options.get name

end Context

namespace Check

def run {α : Type} (c : Context) : Check α → Session → Except Fault α × Session
  | done a, s => (.ok a, s)
  | fail f, s => (.error f, s)
  | reporting m subject sev next, s =>
    let (r, s) := c.report s m subject sev
    (next r).run c s
  | reading n next, s => (next (c.option s n)).run c s
  | inspecting next, s => (next c.index).run c s
  | counting next, s => (next s.reported).run c s
  | askingClosed next, s => (next s.closed).run c s
  | closing next, s => next.run c s.close
  | noting v next, s => next.run c (s.addNote v)

theorem run_andThen {α β : Type} (c : Context) (p : Check α) (k : α → Check β) (s : Session) :
    (p.andThen k).run c s =
      match p.run c s with
      | (.ok a, s) => (k a).run c s
      | (.error f, s) => (.error f, s) := by
  induction p generalizing s with
  | done a => rfl
  | fail f => rfl
  | reporting m subject sev next ih => exact ih _ _
  | reading n next ih => exact ih _ _
  | inspecting next ih => exact ih _ _
  | counting next ih => exact ih _ _
  | askingClosed next ih => exact ih _ _
  | closing next ih => exact ih _
  | noting v next ih => exact ih _

end Check

end DesignLint
