import DesignLint.Fault
import DesignLint.Json.Finite
import DesignLint.Json.Text

/-! # Requests and responses -/

namespace DesignLint.Service

structure Request where
  /-- In upper case. -/
  method : String
  /-- Without escapes. -/
  path : String
  body : List Nat

structure Response where
  status : Nat
  body : Json

namespace Response

def ok (body : Json) : Response := ⟨200, body⟩

def refused (status : Nat) (text : String) : Response := ⟨status, .obj [("detail", .str text)]⟩

def notFound : Response := refused 404 "Not Found"

def wrongMethod : Response := refused 405 "Method Not Allowed"

/-- The response to a fault that nobody is told about. -/
def unexpected : Response :=
  ⟨500, .obj [("error", .str "internal_server_error"),
    ("message", .str "An unexpected error occurred. Please try again.")]⟩

/-- The response to a fault: bad documents are the sender's, all else is the service's own. -/
def ofFault : Fault → Response
  | .document f => ⟨422, .obj [("error", .str "document_malformed"), ("message", .str f.text),
      ("pointer", f.pointer)]⟩
  | .configFile f => ⟨500, .obj [("error", .str "rule_config_invalid"), ("message", .str f.text)]⟩
  | _ => unexpected

def problemDetail (p : Problem) : Json :=
  .obj ([("type", .str p.complaint.code), ("loc", .arr (p.path.map Segment.toJson)),
      ("msg", .str p.message), ("input", p.found)] ++
    match p.complaint with
    | .notJson reason => [("ctx", .obj [("error", .str reason)])]
    | _ => [])

def ofProblems (problems : List Problem) : Response :=
  let detail := Json.arr (problems.map problemDetail)
  if detail.isFinite then ⟨422, .obj [("detail", detail)]⟩ else unexpected

end Response

end DesignLint.Service
