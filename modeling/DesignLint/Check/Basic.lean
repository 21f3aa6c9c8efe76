import DesignLint.Index.Basic
import DesignLint.RuleOption.Values
import DesignLint.Violation

/-!
# Checks

What a rule does with a document is a program that may look at the index, read options, report
violations and close its context. It can do nothing else.
-/

namespace DesignLint

/-- What a violation can be reported against: a node of the document or anything else. -/
structure Subject where
  kind : String
  id : Option Json
  name : Option Json
  cls : Option Json

namespace Subject

def nothing : Subject := ⟨Json.null.typeName, none, none, none⟩

end Subject

def Layer.subject (l : Layer) : Subject :=
  ⟨l.form.name, some (.str l.id), some (.str l.name), some (.str l.cls)⟩

inductive Check (α : Type)
  | done (a : α)
  | fail (f : Fault)
  | reporting (message : Json) (subject : Subject) (severity : Json)
      (next : Except Fault Violation → Check α)
  | reading (name : String) (next : Except Fault Json → Check α)
  | inspecting (next : Index Layer → Check α)
  | counting (next : Nat → Check α)
  | askingClosed (next : Bool → Check α)
  | closing (next : Check α)
  /-- Leaves a value for those who watch the check. -/
  | noting (v : Json) (next : Check α)

namespace Check

def andThen {α β : Type} : Check α → (α → Check β) → Check β
  | done a, k => k a
  | fail f, _ => fail f
  | reporting m s sev next, k => reporting m s sev fun r => (next r).andThen k
  | reading n next, k => reading n fun r => (next r).andThen k
  | inspecting next, k => inspecting fun x => (next x).andThen k
  | counting next, k => counting fun n => (next n).andThen k
  | askingClosed next, k => askingClosed fun b => (next b).andThen k
  | closing next, k => closing (next.andThen k)
  | noting v next, k => noting v (next.andThen k)

instance : Monad Check where
  pure := done
  bind := andThen

/-- What an operation yields, or the failure of the check with its fault. -/
def ofResult {α : Type} : Except Fault α → Check α
  | .ok a => done a
  | .error f => fail f

/-- Reports a violation; a severity that is not given is the one of the context. -/
def report (message : Json) (subject : Subject) (severity : Json) : Check Violation :=
  reporting message subject severity ofResult

def option (name : String) : Check Json := reading name ofResult

def objects : Check (Index Layer) := inspecting done

def count : Check Nat := counting done

def isClosed : Check Bool := askingClosed done

def close : Check Unit := closing (done ())

def note (v : Json) : Check Unit := noting v (done ())

def reportAll (l : Layer) : List String → Check Unit
  | [] => done ()
  | m :: rest => (report (.str m) l.subject .null).andThen fun _ => reportAll l rest

/-- Judges layers one after the other: each yields messages to report, or a fault that ends the
check. -/
def judge (verdict : Layer → Except Fault (List String)) : List Layer → Check Unit
  | [] => done ()
  | l :: rest => (ofResult (verdict l)).andThen fun messages =>
    (reportAll l messages).andThen fun _ => judge verdict rest

end Check

end DesignLint
