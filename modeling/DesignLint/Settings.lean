import DesignLint.Field
import DesignLint.Fault
import DesignLint.Files
import DesignLint.Text.Case

/-! # Settings -/

namespace DesignLint

structure Settings where
  host : String
  port : Int
  debug : Bool
  logLevel : String
  configPath : String
  severity : String
  maxLayers : Int

namespace Settings

def recordName : String := "Settings"

/-- The variables of an environment by lower-case name; of two names that differ in case the later
one counts. -/
def lowered (environment : List (String × String)) : Keyed Json :=
  Keyed.ofPairs (environment.map fun e => (Text.lower e.1, .str e.2))

/-- The setting `name`, from variables by lower-case name. -/
def setting {α : Type} (environment : Keyed Json) (name : String) (read : Json → Checked α)
    (value : α) : Checked α :=
  match environment.get? (Text.lower name) with
  | some v => (read v).within (.key name)
  | none => .ok value

def read (environment : List (String × String)) : Checked Settings :=
  let v := lowered environment
  (Checked.both (setting v "HOST" Field.text "0.0.0.0")
    (Checked.both (setting v "PORT" Field.whole 8000)
      (Checked.both (setting v "DEBUG" Field.flag false)
        (Checked.both (setting v "LOG_LEVEL" Field.text "info")
          (Checked.both (setting v "ASSISTANT_CONFIG_PATH" Field.text "")
            (Checked.both (setting v "DEFAULT_SEVERITY" Field.text "warn")
              (setting v "MAX_LAYERS" Field.whole 50000))))))).map
    fun (host, port, debug, logLevel, configPath, severity, maxLayers) =>
      { host, port, debug, logLevel, configPath, severity, maxLayers }

def variableFault? (name value : String) : Option Fault :=
  if Files.holdsNull name || Files.holdsNull value then some .innerNull
  else if name.toList.contains '=' then some .variableName
  else if name.isEmpty then some .namelessVariable
  else none

def ofEnvironment (environment : List (String × String)) : Except Fault Settings :=
  match environment.findSome? fun e => variableFault? e.1 e.2 with
  | some f => .error f
  | none => (read environment).mapError (.invalidRecord recordName)

def toJson (s : Settings) : Json :=
  .obj [("HOST", .str s.host), ("PORT", .whole s.port), ("DEBUG", .bool s.debug),
    ("LOG_LEVEL", .str s.logLevel), ("ASSISTANT_CONFIG_PATH", .str s.configPath),
    ("DEFAULT_SEVERITY", .str s.severity), ("MAX_LAYERS", .whole s.maxLayers)]

end Settings

end DesignLint
