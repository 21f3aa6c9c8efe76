import DesignLint.Bundled.Assistant
import DesignLint.Proofs.ConfigFile
import DesignLint.Proofs.Index.Build
import DesignLint.Proofs.Run.Compose
import DesignLint.Service.Basic

/-! # Requests to lint -/

namespace DesignLint

namespace Service

variable {s : Service} {files : Files} {body : List Nat} {order : Order} {m m' : Memory}

def lintRequest (body : List Nat) : Request := ⟨Endpoint.lint.method, Endpoint.lint.path, body⟩

def Response.ofResult : Except Fault Response → Response
  | .ok response => response
  | .error f => .ofFault f

theorem respond_endpoint (s : Service) (files : Files) (e : Endpoint) (body : List Nat) (m : Memory) :
    s.respond files ⟨e.method, e.path, body⟩ m =
      (.ofResult ((s.serve files body e).run m).1, ((s.serve files body e).run m).2) := by
  have hfind : Endpoint.find? e.path = some e := by cases e <;> decide
  simp only [respond, hfind, ne_eq, not_true_eq_false, if_false]
  change ((fun p : Except Fault Response × Memory => (match p.1 with
    | .ok response => (return response : StateM Memory Response)
    | .error f => return .ofFault f) p.2) ((s.serve files body e).run m)) = _
  rcases (s.serve files body e).run m with ⟨_ | _, m'⟩ <;> rfl

theorem respond_lintRequest (s : Service) (files : Files) (body : List Nat) (m : Memory) :
    s.respond files (lintRequest body) m =
      (.ofResult ((s.lint files body).run m).1, ((s.lint files body).run m).2) :=
  s.respond_endpoint files .lint body m

/-! ## Too many layers -/

theorem respond_of_tooLarge (files : Files) (m : Memory) (horder : Order.read body = .ok order)
    (hcount : s.settings.maxLayers < LayerCount.count (.obj order.document)) :
    s.respond files (lintRequest body) m =
      (tooLarge (LayerCount.count (.obj order.document)) s.settings.maxLayers, m) := by
  have hlint : (s.lint files body).run m =
      (.ok (tooLarge (LayerCount.count (.obj order.document)) s.settings.maxLayers), m) := by
    simp only [lint, horder, hcount, if_true]
    rfl
  rw [respond_lintRequest, hlint]
  rfl

/-! ## Documents that cannot be used -/

/-- The document of a request is what decides about the answer: the body is an order, the document
has no more layers than the settings allow, the rules of the engine have distinct names, and its
configurations can be resolved. -/
structure ReachesDocument (s : Service) (files : Files) (body : List Nat) (m : Memory)
    (order : Order) (m' : Memory) : Prop where
  read : Order.read body = .ok order
  count : (LayerCount.count (.obj order.document) : Int) ≤ s.settings.maxLayers
  registry : ∃ registry, s.engine.assistant.registry = .ok registry
  configs : ∃ configs, (s.engine.resolve files (.obj order.overrides)).run m = (.ok configs, m')

def Order.source (order : Order) : Document.Source := .value (.obj order.document)

def Order.index (order : Order) : Except Fault (Index Layer) :=
  Runner.indexed (Document.load order.source)

theorem Order.index_of_load_error {f : Fault} (h : Document.load order.source = .error f) :
    order.index = .error f := by
  rw [Order.index, h]
  rfl

theorem run_engine_of_unindexed {e : Engine} {source : Document.Source} {overrides : Json}
    {registry : Registry} {configs : Keyed (Keyed Json)} {f : Fault}
    (hregistry : e.assistant.registry = .ok registry)
    (hconfigs : (e.resolve files overrides).run m = (.ok configs, m'))
    (hf : Runner.indexed (Document.load source) = .error f) :
    (e.run files (.error source) overrides).run m = (.error f, m') := by
  rw [Engine.run, Work.run_bind, Work.run_ofResult, hregistry]
  dsimp only
  rw [Work.run_bind, hconfigs]
  dsimp only
  rw [Work.run_bind, Work.run_ofResult]
  cases hload : Document.load source with
  | error g =>
    rw [hload] at hf
    cases hf
    rfl
  | ok d =>
    have hbuild : Index.build (some d.pages) = .error f := by
      rw [hload] at hf
      exact hf
    have hrun : e.runner.runDocument d registry (e.inputs configs) = .error f := by
      rw [Runner.runDocument, hbuild]
      rfl
    dsimp only
    rw [Work.run_bind, Work.run_ofResult, hrun]

theorem respond_of_unindexed (h : ReachesDocument s files body m order m') {f : Fault}
    (hf : order.index = .error f) :
    s.respond files (lintRequest body) m = (.ofFault f, m') := by
  obtain ⟨registry, hregistry⟩ := h.registry
  obtain ⟨configs, hconfigs⟩ := h.configs
  have hrun : (s.engine.run files (.error order.source) (.obj order.overrides)).run m =
      (.error f, m') := run_engine_of_unindexed hregistry hconfigs hf
  have hlint : (s.lint files body).run m = (.error f, m') := by
    simp only [lint, h.read, Int.not_lt.mpr h.count, if_false, runOrder]
    rw [Work.run_bind, ← Order.source, hrun]
  rw [respond_lintRequest, hlint]
  rfl

/-! ## A service to ask -/

def sampleService (limit : Int) : Service :=
  ⟨⟨Bundled.assistant, "", ⟨.warn⟩⟩, ⟨"0.0.0.0", 8000, false, "info", "", "warn", limit⟩⟩

def noFiles : Files := ⟨[], []⟩

def emptyMemory : Memory := ⟨[], []⟩

/-- The bytes of a text of ASCII characters, two for each with the greater one first. -/
def bytesOf (text : String) : List Nat := text.toList.flatMap fun c => [0, c.toNat]

theorem read_bytesOf {text : String} {v : Json}
    (htext : Json.decode? (bytesOf text) = some text.toList)
    (hread : Json.readPlain text.toList = .ok v) (horder : Order.ofValue v = .ok order)
    (hbody : (bytesOf text).isEmpty = false) : Order.read (bytesOf text) = .ok order := by
  simp only [Order.read, hbody, Json.readBytes?, htext, Option.map_some, hread, horder]
  rfl

theorem reachesDocument_sample (limit : Int) (hread : Order.read body = .ok order)
    (hoverrides : order.overrides = [])
    (hcount : (LayerCount.count (.obj order.document) : Int) ≤ limit) :
    ReachesDocument (sampleService limit) noFiles body emptyMemory order emptyMemory where
  read := hread
  count := hcount
  registry := ⟨_, rfl⟩
  configs := ⟨_, by rw [hoverrides]; rfl⟩

end Service

end DesignLint
