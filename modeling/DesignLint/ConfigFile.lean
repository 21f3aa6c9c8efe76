import DesignLint.Files
import DesignLint.Json.Encoding
import DesignLint.Log

/-!
# Configuration files

A file that was read once stays in memory until that is cleared, whatever becomes of it meanwhile.
-/

namespace DesignLint

/-- What is remembered between uses: the files read, by full path, and the log. -/
structure Memory where
  cache : Keyed (Keyed Json)
  log : List LogEntry

/-- Work that reads files and leaves a log. What it remembers stays when it fails. -/
abbrev Work := ExceptT Fault (StateM Memory)

namespace Work

def log (e : LogEntry) : Work Unit :=
  modify fun m => { m with log := m.log ++ [e] }

def ofResult {α : Type} (r : Except Fault α) : Work α := ExceptT.mk (pure r)

end Work

namespace ConfigFile

/-- A text with all line breaks alike. -/
def plainLines : List Char → List Char
  | '\r' :: '\n' :: rest => '\n' :: plainLines rest
  | '\r' :: rest => '\n' :: plainLines rest
  | c :: rest => c :: plainLines rest
  | [] => []

def isObject : Json → Bool
  | .obj _ => true
  | _ => false

/-- The configurations in a file: an object of objects under the name `rules`. -/
def rulesOf? (v : Json) : Option (Keyed Json) :=
  match v.field? "rules" with
  | some (.obj rules) => if rules.all fun e => isObject e.2 then some rules else none
  | _ => none

def parse (path : String) (bytes : List Nat) : Except Fault (Keyed Json) :=
  match Json.Encoding.chars8? bytes with
  | none => .error .encoding
  | some text =>
    match Json.read (plainLines text) with
    | .error (.broken cause place) => .error (.configFile (.notJson path cause place))
    | .error (.digits n) => .error (.digits n)
    | .ok v => match rulesOf? v with
      | some rules => .ok rules
      | none => .error (.configFile (.wrongShape path))

/-- The configurations in the file at a path, read anew. -/
def readFile (files : Files) (path : String) : Except Fault (Keyed Json) :=
  match files.read (Files.steps path) with
  | .ok bytes => parse path bytes
  | .error cause => .error (.configFile (.unreadable path ⟨cause, Files.resolve path⟩))

/-- The configurations in the file at a path, as they were when it was first read. -/
def load (files : Files) (path : String) : Work (Keyed Json) := do
  if Files.holdsNull path then throw .innerNull
  let full := Files.resolve path
  match (← get).cache.get? full with
  | some rules => return rules
  | none =>
    let rules ← Work.ofResult (readFile files path)
    Work.log (.configLoaded full rules.length)
    modify fun m => { m with cache := m.cache.put full rules }
    return rules

end ConfigFile

end DesignLint
