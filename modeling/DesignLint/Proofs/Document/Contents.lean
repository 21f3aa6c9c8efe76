import DesignLint.Document.Load
import DesignLint.Proofs.Document.Reading

/-!
# What sources hold

The objects of a document that a path leads to are its nodes, as far as the objects on the way are
groups. Whatever lies below any other layer is lost.
-/

namespace DesignLint.Document

/-! ## The object that is loaded -/

def readFault : Json.Unreadable → Fault
  | .broken cause place => .document (.unreadable cause place)
  | .digits count => .digits count

def Source.value? : Source → Except Fault Json
  | .value (.str s) => (Json.read s.toList).mapError readFault
  | .value v => .ok v
  | .text s => (Json.read s).mapError readFault
  | .bytes b =>
    match Json.readBytes? b with
    | some r => r.mapError readFault
    | none => .error .encoding

/-- The object that is a document or wraps one. An object with pages of its own wraps nothing. -/
def contentsOf : Json → Except Fault (Keyed Json)
  | .obj r =>
    match Keyed.get? r "document", Keyed.has r "pages" with
    | some (.obj inner), false => .ok inner
    | some _, false => .error (.document .innerNotObject)
    | _, _ => .ok r
  | v => .error (.document (.notObject v.typeName))

/-- The object in a source that is loaded as a document. -/
def contents (s : Source) : Except Fault (Keyed Json) := s.value?.bind contentsOf

theorem ofValue_eq (v : Json) : ofValue v = (contentsOf v).bind ofFields := by
  cases v with
  | obj r =>
    simp only [ofValue, ofObject, contentsOf]
    rcases Keyed.get? r "document" with _ | inner
    · rfl
    · cases inner <;> cases Keyed.has r "pages" <;> rfl
  | _ => rfl

theorem ofRead_eq (r : Except Json.Unreadable Json) :
    ofRead r = ((r.mapError readFault).bind contentsOf).bind ofFields := by
  rcases r with (_ | _) | v
  · rfl
  · rfl
  · exact ofValue_eq v

theorem load_eq (s : Source) : load s = (contents s).bind ofFields := by
  unfold contents
  cases s with
  | value v =>
    cases v with
    | str t => exact ofRead_eq (Json.read t.toList)
    | _ =>
      rw [load]
      · exact ofValue_eq _
      · simp
  | text t => exact ofRead_eq _
  | bytes b =>
    simp only [load, Source.value?]
    cases Json.readBytes? b with
    | none => rfl
    | some r => exact ofRead_eq r

theorem load_eq_ok_iff {s : Source} {d : Document} :
    load s = .ok d ↔ ∃ r, contents s = .ok r ∧ read r = .ok d := by
  rw [load_eq]
  change (contents s >>= ofFields) = _ ↔ _
  simp only [Outcome.bind_eq_ok_iff, ofFields, Outcome.mapError_eq_ok_iff]

/-! ## Nodes of a loaded document -/

variable {s : Source} {d : Document}

/-- An object on a path from the contents of a source is a node of the loaded document exactly when
the path passes groups only. Every node is such an object, at the same path. -/
theorem at?_load_iff (h : load s = .ok d) :
    ∃ r, contents s = .ok r ∧
      (∀ path fields, Json.layerAt? (.obj r) path = some (.obj fields) →
        ((∃ l, Tree.at? d.pages path = some l) ↔ Json.PassesGroups (.obj r) path)) ∧
      ∀ path l, Tree.at? d.pages path = some l →
        ∃ fields f, Json.layerAt? (.obj r) path = some (.obj fields) ∧ l.ReadFrom f fields := by
  obtain ⟨r, hr, hread⟩ := load_eq_ok_iff.mp h
  refine ⟨r, hr, fun path fields hraw => ⟨?_, fun hgroups => ?_⟩, fun path l hl => ?_⟩
  · rintro ⟨l, hl⟩
    obtain ⟨fields', f, hat, -⟩ := readAt?_of_at? hread hl
    exact (Json.readAt?_eq_some_iff.mp hat).2
  · exact exists_at?_of_readAt? hread (Json.readAt?_eq_some_iff.mpr ⟨hraw, hgroups⟩)
  · obtain ⟨fields, f, hat, hfrom, -⟩ := readAt?_of_at? hread hl
    exact ⟨fields, f, (Json.readAt?_eq_some_iff.mp hat).1, hfrom⟩

/-! ## A text below a layer of an unknown class -/

def rawLayer (key : String) (cls : Json) (id : String) (layers : List Json) : Json :=
  .obj [(key, cls), ("do_objectID", .str id),
    ("frame", .obj [("width", .whole 100), ("height", .whole 20)]), ("layers", .arr layers)]

def rawDocument (pages : List Json) : Json := .obj [("pages", .arr pages)]

def rawPair (cls inner : String) : Json :=
  rawDocument [rawLayer "_class" (.str cls) "p" [rawLayer "_class" (.str inner) "l" []]]

def rawNested (cls : String) : Json :=
  rawDocument [rawLayer "_class" (.str "page") "p"
    [rawLayer "_class" (.str cls) "l" [rawLayer "_class" (.str "text") "t" []]]]

theorem passesGroups_rawNested_group : Json.PassesGroups (rawNested "group") [0, 0, 0] := by
  have hread : Json.readAt? (rawNested "group") [0, 0, 0] = some _ := rfl
  exact (Json.readAt?_eq_some_iff.mp hread).2

theorem at?_load_iff_rawNested :
    ∃ d l, load (.value (rawNested "group")) = .ok d ∧ Tree.at? d.pages [0, 0, 0] = some l ∧
      l.id = "t" := by
  have hload : load (.value (rawNested "group")) = .ok _ := rfl
  obtain ⟨r, hr, hnodes, hobjects⟩ := at?_load_iff hload
  cases hr
  obtain ⟨l, hl⟩ := (hnodes [0, 0, 0] _ rfl).mpr passesGroups_rawNested_group
  obtain ⟨fields, f, hraw, hfrom⟩ := hobjects _ l hl
  cases hraw
  obtain ⟨k, hid⟩ := hfrom.id
  have hid : Json.str "t" = .str l.id := congrArg Prod.snd (Option.some.inj hid)
  exact ⟨_, l, hload, hl, (Json.str.inj hid).symm⟩

/-- The text below a frame is in the document that is read and not in the one that is loaded. -/
theorem rawNested_frame_loses :
    ∃ d fields, load (.value (rawNested "frame")) = .ok d ∧
      Json.layerAt? (rawNested "frame") [0, 0, 0] = some (.obj fields) ∧
      ¬ ∃ l, Tree.at? d.pages [0, 0, 0] = some l :=
  ⟨_, _, rfl, rfl, fun ⟨_, h⟩ => nomatch h⟩

end DesignLint.Document
