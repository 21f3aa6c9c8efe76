import DesignLint.Proofs.Document.Escape
import DesignLint.Proofs.Service.Lint

/-! # Malformed documents -/

namespace DesignLint.Service

open Document (Source load Escape)

def rejected (f : DocumentFault) : Response :=
  ⟨422, .obj [("error", .str "document_malformed"), ("message", .str f.text),
    ("pointer", f.pointer)]⟩

theorem index_eq_error {order : Order} {f : Fault} (h : order.index = .error f) :
    (∃ g, f = .document g) ∨ Escape order.source f := by
  rcases Outcome.bind_eq_error_iff.mp h with hload | ⟨d, -, hbuild⟩
  · exact Document.document_or_escape hload
  · by_cases hindexable : Indexable (Tree.preorderAll d.pages)
    · cases (Index.build_indexable d.pages hindexable).symm.trans hbuild
    · obtain ⟨_, _, a, _, _, _, _, hfault⟩ := Index.build_unindexable d.pages hindexable
      obtain ⟨f', -, -, hbuild'⟩ := hfault (isPlain_layer a)
      cases hbuild'.symm.trans hbuild
      exact .inl ⟨f', rfl⟩

theorem ofFault_of_escape {s : Source} {f : Fault} (h : Escape s f) :
    Response.ofFault f = .unexpected := by
  cases h <;> rfl

theorem respond_of_document {s : Service} {files : Files} {body : List Nat} {order : Order}
    {m m' : Memory} (h : ReachesDocument s files body m order m') :
    (∃ x, order.index = .ok x) ∨
      (∃ g, s.respond files (lintRequest body) m = (rejected g, m')) ∨
      s.respond files (lintRequest body) m = (.unexpected, m') ∧ ∃ f, Escape order.source f := by
  cases hindex : order.index with
  | ok x => exact .inl ⟨x, rfl⟩
  | error f =>
    have hrespond := respond_of_unindexed h hindex
    rcases index_eq_error hindex with ⟨g, rfl⟩ | hescape
    · exact .inr (.inl ⟨g, hrespond⟩)
    · rw [ofFault_of_escape hescape] at hrespond
      exact .inr (.inr ⟨hrespond, f, hescape⟩)

theorem respond_of_escape {s : Service} {files : Files} {body : List Nat} {order : Order}
    {m m' : Memory} (h : ReachesDocument s files body m order m') {f : Fault}
    (hescape : Escape order.source f) :
    s.respond files (lintRequest body) m = (.unexpected, m') := by
  obtain ⟨g, hload, hg⟩ := Document.load_of_escape hescape
  rw [respond_of_unindexed h (Order.index_of_load_error hload), ofFault_of_escape hg]

/-! ## Every source and every order -/

/-- A source loads or is rejected as malformed exactly when nothing in it escapes. The service
answers what escapes as unexpected. -/
theorem rejects_unless_escape (source : Source) :
    (((∃ d, load source = .ok d) ∨ ∃ g, load source = .error (.document g)) ↔
      ∀ f, ¬ Escape source f) ∧
    (∀ f, load source = .error f → (∃ g, f = .document g) ∨ Escape source f) ∧
    ∀ (s : Service) files body m order m', ReachesDocument s files body m order m' →
      order.source = source →
      ((∀ f, ¬ Escape source f) → (∃ x, order.index = .ok x) ∨
        ∃ g, s.respond files (lintRequest body) m = (rejected g, m')) ∧
      ((∃ f, Escape source f) →
        s.respond files (lintRequest body) m = (.unexpected, m')) := by
  refine ⟨Document.loads_or_rejected_iff, fun f => Document.document_or_escape, ?_⟩
  rintro s files body m order m' h rfl
  constructor
  · intro hnone
    rcases respond_of_document h with hok | hrejected | ⟨-, f, hf⟩
    · exact .inl hok
    · exact .inr hrejected
    · exact absurd hf (hnone f)
  · rintro ⟨f, hf⟩
    exact respond_of_escape h hf

/-! ## Two bodies -/

def misfitBody : List Nat := bytesOf "\x7b\"document\": \x7b\"pages\": 1\x7d\x7d"

theorem read_misfitBody : Order.read misfitBody = .ok ⟨[("pages", .whole 1)], []⟩ := by
  refine read_bytesOf (by decide +kernel) ?_
    (v := .obj [("document", .obj [("pages", .whole 1)])]) rfl rfl
  simp only [String.reduceToList]
  rfl

theorem rejects_unless_escape_misfitBody :
    ReachesDocument (sampleService 50000) noFiles misfitBody emptyMemory ⟨[("pages", .whole 1)], []⟩
      emptyMemory ∧
    ∃ g, (sampleService 50000).respond noFiles (lintRequest misfitBody) emptyMemory =
      (rejected g, emptyMemory) := by
  have hreaches := reachesDocument_sample 50000 read_misfitBody rfl (by decide)
  obtain ⟨hloads, -, hserves⟩ := rejects_unless_escape (.value (.obj [("pages", .whole 1)]))
  have hload : load (.value (.obj [("pages", .whole 1)])) = .error (.document _) := rfl
  have hnone := hloads.mp (.inr ⟨_, hload⟩)
  rcases (hserves _ _ _ _ _ _ hreaches rfl).1 hnone with ⟨x, hx⟩ | hrejected
  · cases hx
  · exact ⟨hreaches, hrejected⟩

def unusableBody : List Nat :=
  bytesOf "\x7b\"document\":\x7b\"pages\":[\x7b\"layers\":[\x7b\"_class\":[]\x7d]\x7d]\x7d\x7d"

theorem read_unusableBody : ∃ order, Order.read unusableBody = .ok order ∧ order.overrides = [] ∧
    LayerCount.count (.obj order.document) = 1 ∧
    load order.source = .error (.misuse (.noKey "list")) := by
  refine ⟨⟨_, []⟩, read_bytesOf (by decide +kernel) ?_ (v := .obj [("document",
    .obj [("pages", .arr [.obj [("layers", .arr [.obj [("_class", .arr [])]])]])])]) rfl rfl,
    rfl, rfl, rfl⟩
  simp only [String.reduceToList]
  rfl

theorem unusableBody_unexpected :
    ∃ order f, Order.read unusableBody = .ok order ∧ load order.source = .error f ∧
      (¬ ∃ g, f = .document g) ∧
      (sampleService 50000).respond noFiles (lintRequest unusableBody) emptyMemory =
        (.unexpected, emptyMemory) := by
  obtain ⟨order, hread, hoverrides, hcount, hload⟩ := read_unusableBody
  have hreaches := reachesDocument_sample 50000 hread hoverrides (by rw [hcount]; decide)
  refine ⟨order, _, hread, hload, (fun ⟨g, hg⟩ => nomatch hg), ?_⟩
  rw [respond_of_unindexed hreaches (Order.index_of_load_error hload)]
  rfl

end DesignLint.Service
