/-! # Endpoints -/

namespace DesignLint.Service

inductive Endpoint
  | welcome
  | health
  | rules
  | lint
  deriving DecidableEq

namespace Endpoint

def path : Endpoint → String
  | welcome => "/"
  | health => "/api/v1/health"
  | rules => "/api/v1/rules"
  | lint => "/api/v1/lint"

def method : Endpoint → String
  | lint => "POST"
  | _ => "GET"

def all : List Endpoint := [welcome, health, rules, lint]

/-- The endpoint at a path; a line break at the end of the path does not matter. -/
def ofPath? (path : String) : Option Endpoint :=
  all.find? fun e => path == e.path || path == e.path ++ "\n"

def trimmed (path : String) : String :=
  String.ofList (path.toList.reverse.dropWhile (· = '/')).reverse

/-- The endpoint that a path leads to; slashes at its end do not matter. -/
def find? (path : String) : Option Endpoint :=
  match ofPath? path with
  | some e => some e
  | none => ofPath? (trimmed path)

end Endpoint

end DesignLint.Service
