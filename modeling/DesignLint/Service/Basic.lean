import DesignLint.Document.LayerCount
import DesignLint.Assistant.Engine
import DesignLint.Service.Endpoint
import DesignLint.Service.Order

/-! # The service -/

namespace DesignLint

structure Service where
  engine : Engine
  settings : Settings

namespace Service

def title : String := "Appibilities"

def version : String := "1.0.0"

inductive Condition
  | healthy
  | degraded
  | unhealthy
  deriving DecidableEq

namespace Condition

def name : Condition → String
  | healthy => "healthy"
  | degraded => "degraded"
  | unhealthy => "unhealthy"

/-- How a whole does: well when all parts do, badly when some part does. -/
def overall (l : List Condition) : Condition :=
  if l.all (· = healthy) then healthy
  else if l.any (· = unhealthy) then unhealthy
  else degraded

end Condition

structure Dependency where
  name : String
  condition : Condition
  message : Option String

def Dependency.toJson (d : Dependency) : Json :=
  .obj [("status", .str d.condition.name), ("message", (d.message.map Json.str).getD .null)]

/-- Resolves the configurations of the engine once, so that a bad file is noticed at the start. -/
def start (engine : Engine) (settings : Settings) (files : Files) : Work Service := do
  let _ ← engine.resolve files .null
  return ⟨engine, settings⟩

def welcome (s : Service) : Response :=
  .ok (.obj [("name", .str title), ("version", .str version),
    ("assistant", .str s.engine.assistant.name), ("docs", .str "/docs"),
    ("health", .str Endpoint.health.path)])

/-- The rules as a dependency: without any the service is of little use. -/
def ruleDependency (s : Service) : Dependency :=
  let n := s.engine.assistant.rules.length
  ⟨"rules", if n = 0 then .degraded else .healthy, some (toString n ++ " rules registered")⟩

def fileDependency (s : Service) (files : Files) : Work (List Dependency) :=
  let path := s.settings.configPath
  if path.isEmpty then return []
  else tryCatch
    (do
      let _ ← ConfigFile.load files path
      return [⟨"rule_config", .healthy, none⟩])
    fun
      | .configFile f => return [⟨"rule_config", .unhealthy, some f.text⟩]
      | f => throw f

def health (s : Service) (files : Files) : Work Response := do
  let parts := s.ruleDependency :: (← s.fileDependency files)
  return .ok (.obj [("status", .str (Condition.overall (parts.map (·.condition))).name),
    ("version", .str version),
    ("dependencies", .obj (parts.map fun d => (d.name, d.toJson)))])

/-- A rule as the listing of the service shows it; its title has to be a text. -/
def ruleJson? (l : Engine.RuleListing) : Option Json :=
  match l.title with
  | .str title => some (.obj [("name", .str l.name), ("title", .str title),
      ("description", .str l.description), ("active", .bool l.active),
      ("options", .arr (l.options.map Json.obj)), ("config", .obj l.config)])
  | _ => none

def rules (s : Service) (files : Files) : Work Response := do
  match (← s.engine.describe files .null).mapM ruleJson? with
  | some listing => return .ok (Json.arr listing).finite
  | none => return .unexpected

def tooLarge (layers : Nat) (limit : Int) : Response :=
  .refused 413 ("Document has " ++ toString layers ++ " layers; the limit is " ++ toString limit)

def runOrder (s : Service) (files : Files) (order : Order) : Work Response := do
  let report ← s.engine.run files (.error (.value (.obj order.document))) (.obj order.overrides)
  return .ok (.obj (report.result.toFields ++ [("assistant", .str s.engine.assistant.name)]))

/-- Lints the document in a body, unless it has more layers than the settings allow. -/
def lint (s : Service) (files : Files) (body : List Nat) : Work Response :=
  match Order.read body with
  | .error f => return f.response
  | .ok order =>
    let layers := LayerCount.count (.obj order.document)
    if s.settings.maxLayers < layers then return tooLarge layers s.settings.maxLayers
    else s.runOrder files order

def serve (s : Service) (files : Files) (body : List Nat) : Endpoint → Work Response
  | .welcome => return s.welcome
  | .health => s.health files
  | .rules => s.rules files
  | .lint => s.lint files body

/-- The response to a request. Faults are responses, too. -/
def respond (s : Service) (files : Files) (r : Request) : StateM Memory Response :=
  match Endpoint.find? r.path with
  | none => return .notFound
  | some e =>
    if r.method ≠ e.method then return .wrongMethod
    else do
      match ← (s.serve files r.body e).run with
      | .ok response => return response
      | .error f => return .ofFault f

end Service

end DesignLint
