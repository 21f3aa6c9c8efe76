import DesignLint.Proofs.Document.Contents
import DesignLint.Proofs.Document.Unusable
import DesignLint.Proofs.Json.Reader

/-!
# Faults that escape

Three things escape: bytes that encode no text, a whole number with too many digits, and a container
for the class of a layer.
-/

namespace DesignLint.Document

/-- A source fails to load with a fault other than that of a malformed document. -/
inductive Escape (s : Source) : Fault → Prop
  | undecodable {bytes : List Nat} (source : s = .bytes bytes) (text : Json.decode? bytes = none) :
    Escape s .encoding
  | digits {count : Nat} (value : s.value? = .error (.digits count))
    (excess : Number.digitLimit < count) : Escape s (.digits count)
  | unusableClass {r : Keyed Json} {path : List Nat} {v : Json} {kind : String}
    (contents : contents s = .ok r) (below : 2 ≤ path.length)
    (value : Json.layerAt? (.obj r) path = some v) (groups : Json.PassesGroups (.obj r) path)
    (unusable : v.unusableClass? = some kind) : Escape s (.misuse (.noKey kind))

variable {s : Source} {r : Keyed Json} {f : Fault}

/-! ## Up to the contents -/

theorem document_or_escape_of_value? (h : s.value? = .error f) :
    (∃ g, f = .document g) ∨ Escape s f := by
  have hread : ∀ {result : Except Json.Unreadable Json},
      (∀ n, result = .error (.digits n) → Number.digitLimit < n) →
      result.mapError readFault = .error f → (∃ g, f = .document g) ∨ Escape s f := by
    intro result hlimit hresult
    obtain ⟨u, hu, rfl⟩ := Outcome.mapError_eq_error_iff.mp hresult
    cases u with
    | broken cause place => exact .inl ⟨_, rfl⟩
    | digits n => exact .inr (.digits h (hlimit n hu))
  cases s with
  | value v =>
    cases v with
    | str t => exact hread (fun n => Json.digitLimit_lt_of_read) h
    | _ => cases h
  | text t => exact hread (fun n => Json.digitLimit_lt_of_read) h
  | bytes b =>
    cases hdecode : Json.decode? b with
    | none =>
      simp only [Source.value?, Json.readBytes?, hdecode, Option.map_none] at h
      cases h
      exact .inr (.undecodable rfl hdecode)
    | some text =>
      have hplain : (Json.readPlain text).mapError readFault = .error f := by
        simpa only [Source.value?, Json.readBytes?, hdecode, Option.map_some] using h
      exact hread (fun n => Json.digitLimit_lt_of_readPlain) hplain

theorem document_of_contentsOf {v : Json} (h : contentsOf v = .error f) : ∃ g, f = .document g := by
  cases v with
  | obj r =>
    simp only [contentsOf] at h
    split at h
    · cases h
    · cases h
      exact ⟨_, rfl⟩
    · cases h
  | _ =>
    simp only [contentsOf, Except.error.injEq] at h
    exact ⟨_, h.symm⟩

/-! ## Fields -/

theorem ofFields_eq_error (h : ofFields r = .error f) :
    (∃ g, f = .document g) ∨ ∃ kind, (read r).unusable? = some kind ∧ f = .misuse (.noKey kind) := by
  obtain ⟨rejection, hread, rfl⟩ := Outcome.mapError_eq_error_iff.mp h
  cases rejection with
  | unusableClass kind => exact .inr ⟨kind, by rw [hread]; rfl, rfl⟩
  | problems l => cases l <;> exact .inl ⟨_, rfl⟩

theorem ofFields_of_unusable? {kind : String} (h : (read r).unusable? = some kind) :
    ofFields r = .error (.misuse (.noKey kind)) := by
  unfold Reading.unusable? at h
  split at h
  · rename_i hread
    cases h
    rw [ofFields, hread]
    rfl
  · cases h

/-! ## Loading -/

theorem document_or_escape (h : load s = .error f) : (∃ g, f = .document g) ∨ Escape s f := by
  rw [load_eq] at h
  rcases Outcome.bind_eq_error_iff.mp h with hcontents | ⟨r, hr, hfields⟩
  · rcases Outcome.bind_eq_error_iff.mp hcontents with hvalue | ⟨v, -, hv⟩
    · exact document_or_escape_of_value? hvalue
    · exact .inl (document_of_contentsOf hv)
  · rcases ofFields_eq_error hfields with hdocument | ⟨kind, hkind, rfl⟩
    · exact .inl hdocument
    · obtain ⟨path, v, hpath, hv, hclass⟩ := exists_of_unusable?_read hkind
      obtain ⟨hat, hgroups⟩ := Json.readAt?_eq_some_iff.mp hv
      exact .inr (.unusableClass hr hpath hat hgroups hclass)

theorem load_of_escape (h : Escape s f) : ∃ g, load s = .error g ∧ Escape s g := by
  rw [load_eq]
  cases h with
  | undecodable source text =>
    subst source
    refine ⟨.encoding, ?_, .undecodable rfl text⟩
    simp only [contents, Source.value?, Json.readBytes?, text, Option.map_none]
    rfl
  | digits value excess =>
    refine ⟨_, ?_, .digits value excess⟩
    rw [contents, value]
    rfl
  | unusableClass hr hpath hat hgroups hclass =>
    -- Reading ends with the first unusable class, which need not be the given one.
    have hv := Json.readAt?_eq_some_iff.mpr ⟨hat, hgroups⟩
    obtain ⟨kind, hkind⟩ := Option.isSome_iff_exists.mp (unusable?_read_of_readAt? hpath hv hclass)
    obtain ⟨path', v', hpath', hv', hclass'⟩ := exists_of_unusable?_read hkind
    obtain ⟨hat', hgroups'⟩ := Json.readAt?_eq_some_iff.mp hv'
    refine ⟨_, ?_, .unusableClass hr hpath' hat' hgroups' hclass'⟩
    rw [hr]
    exact ofFields_of_unusable? hkind

/-- A source loads or is rejected exactly when nothing in it can escape. -/
theorem loads_or_rejected_iff : ((∃ d, load s = .ok d) ∨ ∃ g, load s = .error (.document g)) ↔
    ∀ f, ¬ Escape s f := by
  constructor
  · intro h f hf
    obtain ⟨g, hg, hescape⟩ := load_of_escape hf
    rcases h with ⟨d, hd⟩ | ⟨e, he⟩
    · cases hd.symm.trans hg
    · cases he.symm.trans hg
      cases hescape
  · intro hnone
    cases hload : load s with
    | ok d => exact .inl ⟨d, rfl⟩
    | error f =>
      rcases document_or_escape hload with ⟨g, rfl⟩ | hf
      · exact .inr ⟨g, rfl⟩
      · exact absurd hf (hnone f)

end DesignLint.Document
