import DesignLint.Proofs.Document.Contents
import DesignLint.Proofs.Document.LayerCount
import DesignLint.Proofs.Service.Lint

/-!
# The limit of layers

The count sees only the nodes whose objects give the class its first name.
-/

namespace DesignLint

/-- Whether an object has the name by which layers are counted. -/
def Json.isTagged (v : Json) : Bool := (v.field? "_class").isSome

namespace Document

open LayerCount (total one count)

variable {r : Keyed Json} {d : Document}

theorem one_eq (v : Json) : one v = if v.isTagged then 1 else 0 := by
  cases v <;> rfl

/-! ## Nodes that are counted -/

theorem countP_placesFrom_le {l items : List Json} {ts : List (Tree Layer)} {i : Nat}
    {p : List Nat → Bool}
    (hp : ∀ j steps, p (j :: steps) =
      (l[j]?.bind fun v => Json.layerBelow? v steps).any Json.isTagged)
    (hitems : l.drop i = items)
    (hall : List.Forall₂ (fun v t => (Tree.places t).countP
      (fun e => (Json.layerBelow? v e.1).any Json.isTagged) ≤ total v) items ts) :
    (Tree.placesFrom i ts).countP (fun e => p e.1) ≤ (items.map total).sum := by
  induction hall generalizing i with
  | nil => simp [Tree.placesFrom]
  | @cons v t items ts hv _ ih =>
    have hget : l[i]? = some v := by
      rw [← List.head?_drop, hitems]
      rfl
    have hrest : l.drop (i + 1) = items := by
      rw [← List.drop_drop, hitems]
      rfl
    have hfirst : ((Tree.places t).map fun e => (i :: e.1, e.2)).countP (fun e => p e.1) ≤ total v := by
      rw [List.countP_map]
      simpa [Function.comp_def, hp, hget] using hv
    rw [Tree.placesFrom, List.countP_append, List.map_cons, List.sum_cons]
    exact Nat.add_le_add hfirst (ih hrest)

theorem countP_children_le {v : Json} {holds : Bool} {ts : List (Tree Layer)}
    (hall : List.Forall₂ Layer.ReadsAs (if holds then v.itemsUnder "layers" else []) ts)
    (hbelow : ∀ w ∈ v.itemsUnder "layers", ∀ g u, Layer.readNode g w = .ok u →
      (Tree.places u).countP (fun e => (Json.layerBelow? w e.1).any Json.isTagged) ≤ total w) :
    (Tree.placesFrom 0 ts).countP (fun e => (Json.layerBelow? v e.1).any Json.isTagged) ≤
      ((v.itemsUnder "layers").map total).sum := by
  cases holds with
  | false =>
    -- Layers that are not read are counted all the same.
    cases hall
    exact Nat.zero_le _
  | true =>
    have hread := (List.forall₂_and_left _ _).mpr ⟨hbelow, hall⟩
    exact countP_placesFrom_le (l := v.itemsUnder "layers")
      (p := fun path => (Json.layerBelow? v path).any Json.isTagged) (fun _ _ => rfl) rfl
      (hread.imp fun w u ⟨hle, g, _, hnode⟩ => hle g u hnode)

theorem countP_places_le {f : Form} {v : Json} {t : Tree Layer} (h : Layer.readNode f v = .ok t) :
    (Tree.places t).countP (fun e => (Json.layerBelow? v e.1).any Json.isTagged) ≤ total v := by
  induction v using Json.inductionBelow generalizing f t with
  | h v ih =>
    obtain ⟨r, hr, -, hall⟩ := Layer.readNode_eq_ok h
    cases t with
    | node l ts =>
      rw [Tree.children] at hall
      have hbelow := countP_children_le hall fun w hw g u => ih w hw (f := g) (t := u)
      have hkey : "layers" ∈ LayerCount.keys := by decide
      have hsum := LayerCount.total_itemsUnder_le hkey v
      rw [Tree.places, List.countP_cons]
      cases htag : v.isTagged with
      | false =>
        simp only [Json.layerBelow?, Option.any_some, htag, Bool.false_eq_true, if_false]
        omega
      | true =>
        simp only [one_eq, htag, if_true] at hsum
        simp only [Json.layerBelow?, Option.any_some, htag, if_true]
        omega

/-- There are no more tagged nodes than the raw document has layers. -/
theorem countP_placesAll_le (h : read r = .ok d) :
    (Tree.placesAll d.pages).countP (fun e => (Json.layerAt? (.obj r) e.1).any Json.isTagged) ≤
      total (.obj r) := by
  have hpages : (Tree.placesAll d.pages).countP
      (fun e => (Json.layerAt? (.obj r) e.1).any Json.isTagged) ≤
        (((Json.obj r).itemsUnder "pages").map total).sum :=
    countP_placesFrom_le (l := (Json.obj r).itemsUnder "pages")
      (p := fun path => (Json.layerAt? (.obj r) path).any Json.isTagged) (fun _ _ => rfl) rfl
      ((read_eq_ok h).imp fun v t hread => countP_places_le hread)
  have hkey : "pages" ∈ LayerCount.keys := by decide
  have hsum := LayerCount.total_itemsUnder_le hkey (.obj r)
  omega

theorem total_contents_le {raw : Keyed Json} (h : contents (.value (.obj raw)) = .ok r) :
    total (.obj r) ≤ total (.obj raw) := by
  have hr : contentsOf (.obj raw) = .ok r := h
  simp only [contentsOf] at hr
  split at hr
  · rename_i hinner _
    cases hr
    exact Nat.le_trans (Nat.le_add_left _ _) (LayerCount.total_member_le (by decide) hinner)
  · cases hr
  · cases hr
    exact Nat.le_refl _

/-! ## Nodes that are not -/

/-- The number of nodes whose objects lack the name by which layers are counted. -/
def untagged (r : Keyed Json) (pages : List (Tree Layer)) : Nat :=
  (Tree.placesAll pages).countP fun e => !(Json.layerAt? (.obj r) e.1).any Json.isTagged

theorem untagged_eq_zero_iff {r : Keyed Json} {pages : List (Tree Layer)} :
    untagged r pages = 0 ↔ ∀ path l, Tree.at? pages path = some l →
      ∃ v, Json.layerAt? (.obj r) path = some v ∧ v.isTagged = true := by
  simp only [untagged, List.countP_eq_zero, Prod.forall, Tree.mem_placesAll_iff, Bool.not_eq_true',
    Bool.not_eq_false, Option.any_eq_true]

theorem size_le_count_add_untagged {raw : Keyed Json} {x : Index Layer}
    (hr : contents (.value (.obj raw)) = .ok r) (h : read r = .ok d)
    (hx : Index.build (some d.pages) = .ok x) :
    x.size ≤ count (.obj raw) + untagged r d.pages := by
  have hsize : x.size = (Tree.placesAll d.pages).length := by
    obtain ⟨hindexable, rfl⟩ := Index.indexable_of_build hx
    rw [(Index.describes_after d.pages hindexable).size, ← Tree.labels_placesAll, List.length_map]
  have htagged := countP_placesAll_le h
  have hcontents := total_contents_le hr
  have hsplit := List.length_eq_countP_add_countP
    (fun e => (Json.layerAt? (.obj r) e.1).any Json.isTagged) (l := Tree.placesAll d.pages)
  rw [hsize, hsplit, LayerCount.count_eq_total, untagged]
  simp only [Bool.not_eq_true, Bool.decide_eq_false]
  omega

end Document

/-! ## The limit of the service -/

namespace Service

open Document (load contents untagged)
open LayerCount (count)

/-- A document has no more nodes than layers were counted, but for untagged ones. So the service
runs none whose nodes exceed the limit by more than those. -/
theorem size_le_count_and_tooLarge {raw : Keyed Json} {d : Document} {x : Index Layer}
    (h : load (.value (.obj raw)) = .ok d) (hx : Index.build (some d.pages) = .ok x) :
    ∃ r, contents (.value (.obj raw)) = .ok r ∧
      x.size ≤ count (.obj raw) + untagged r d.pages ∧
      (untagged r d.pages = 0 ↔ ∀ path l, Tree.at? d.pages path = some l →
        ∃ v, Json.layerAt? (.obj r) path = some v ∧ v.isTagged = true) ∧
      ∀ (s : Service) files body overrides m, Order.read body = .ok ⟨raw, overrides⟩ →
        s.settings.maxLayers + untagged r d.pages < x.size →
        s.respond files (lintRequest body) m =
          (tooLarge (count (.obj raw)) s.settings.maxLayers, m) := by
  obtain ⟨r, hr, hread⟩ := Document.load_eq_ok_iff.mp h
  have hsize := Document.size_le_count_add_untagged hr hread hx
  refine ⟨r, hr, hsize, Document.untagged_eq_zero_iff, fun s files body overrides m horder hlimit => ?_⟩
  have hcount : s.settings.maxLayers < count (.obj raw) := by omega
  have htooLarge := respond_of_tooLarge files m horder hcount
  exact htooLarge

/-! ## Two spellings of a class -/

def pageBody : List Nat := bytesOf ("\x7b\"document\":\x7b\"pages\":[\x7b\"_class\":\"page\"," ++
  "\"do_objectID\":\"p\",\"frame\":\x7b\"width\":1,\"height\":1\x7d\x7d]\x7d\x7d")

def pageFields : Keyed Json :=
  [("pages", .arr [.obj [("_class", .str "page"), ("do_objectID", .str "p"),
    ("frame", .obj [("width", .whole 1), ("height", .whole 1)])]])]

theorem read_pageBody : Order.read pageBody = .ok ⟨pageFields, []⟩ := by
  refine read_bytesOf (by decide +kernel) ?_ (v := .obj [("document", .obj pageFields)]) rfl rfl
  simp only [String.reduceToList, String.toList_append]
  rfl

theorem size_le_count_and_tooLarge_pageBody :
    ∃ d x, load (.value (.obj pageFields)) = .ok d ∧ Index.build (some d.pages) = .ok x ∧
      x.size ≤ count (.obj pageFields) ∧
      (sampleService 0).respond noFiles (lintRequest pageBody) emptyMemory =
        (tooLarge 1 0, emptyMemory) := by
  have hload : load (.value (.obj pageFields)) = .ok _ := rfl
  obtain ⟨r, hr, hsize, -, hserves⟩ := size_le_count_and_tooLarge hload rfl
  cases hr
  exact ⟨_, _, hload, rfl, hsize,
    hserves (sampleService 0) noFiles pageBody [] emptyMemory read_pageBody (by decide)⟩

def rawUntagged : Json :=
  Document.rawDocument [Document.rawLayer "class_" (.str "page") "p"
    [Document.rawLayer "class_" (.str "text") "t" []]]

theorem count_lt_size_of_class_ :
    ∃ d x, load (.value rawUntagged) = .ok d ∧ Index.build (some d.pages) = .ok x ∧
      x.size = 2 ∧ count rawUntagged = 0 :=
  ⟨_, _, rfl, rfl, rfl, rfl⟩

end Service

end DesignLint
