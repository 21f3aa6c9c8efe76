import DesignLint.Proofs.Index.Gathered
import DesignLint.Proofs.Index.Offence

/-! # The index of a whole document -/

namespace DesignLint

/-! ## Runs of visits -/

namespace Walk

variable {α : Type} [Viewable α]

theorem visitAll_after (l m : List (Visit α)) (h : Indexable ((l ++ m).map (·.node))) :
    (after l).visitAll m = .ok (after (l ++ m)) := by
  induction m generalizing l with
  | nil => simp [visitAll, pure, Except.pure]
  | cons v rest ih =>
    have hmove : l ++ v :: rest = (l ++ [v]) ++ rest := by simp
    have hsplit : Indexable (l.map (·.node)) ∧ Indexable (v.node :: rest.map (·.node)) ∧ _ :=
      (indexable_append_iff (l.map (·.node)) (v.node :: rest.map (·.node))).mp (by simpa using h)
    have hnone : visitFault? l.reverse v.node v.pointer = none := by
      apply visitFault?_eq_none v.pointer (hsplit.2.1.complete v.node List.mem_cons_self)
      · intro u hu
        exact hsplit.1.complete u.node (List.mem_map_of_mem (List.mem_reverse.mp hu))
      · intro u hu
        exact hsplit.2.2 u.node (List.mem_map_of_mem (List.mem_reverse.mp hu)) v.node
          List.mem_cons_self
    rw [visitAll_cons, visit_after l v hnone, hmove]
    exact ih (l ++ [v]) (by rwa [← hmove])

theorem visitAll_start (l : List (Visit α)) (h : Indexable (l.map (·.node))) :
    start.visitAll l = .ok (after l) :=
  visitAll_after [] l h

theorem visitAll_start_fault (l rest : List (Visit α)) (v : Visit α) (f : Fault)
    (h : Indexable (l.map (·.node))) (hf : visitFault? l.reverse v.node v.pointer = some f) :
    start.visitAll (l ++ v :: rest) = .error f := by
  rw [visitAll_append, visitAll_start l h]
  change (after l).visitAll (v :: rest) = _
  rw [visitAll_cons, visit_after_fault l v f hf]
  rfl

end Walk

theorem exists_first_loss {β : Type} (P : List β → Prop) (hnil : P []) (l : List β) (h : ¬ P l) :
    ∃ before b rest, l = before ++ b :: rest ∧ P before ∧ ¬ P (before ++ [b]) := by
  induction l using List.reverseRecOn with
  | nil => exact absurd hnil h
  | append_singleton l b ih =>
    by_cases hl : P l
    · exact ⟨l, b, [], rfl, hl, h⟩
    · obtain ⟨before, c, rest, rfl, hbefore, hloss⟩ := ih hl
      exact ⟨before, c, rest ++ [b], by simp, hbefore, hloss⟩

/-! ## Documents -/

variable {α : Type} [Viewable α]

/-- What an index says of the nodes of a document. The collections of specific kinds go by class. -/
structure Index.Describes (x : Index α) (ts : List (Tree α)) : Prop where
  specific : ∀ k, k ≠ .anyLayer → k ≠ .anyGroup →
    x.nodes k = (Tree.preorderAll ts).filter fun a =>
      (view a).className?.bind Kind.ofClass? = some k
  anyLayer : x.nodes .anyLayer =
    (Tree.preorderAll ts).filter fun a => (view a).className? ≠ some "page"
  anyGroup : x.nodes .anyGroup = (Tree.preorderAll ts).filter fun a =>
    (view a).className?.any ["artboard", "group", "shapeGroup", "symbolMaster"].contains
  named : ∀ k name, (k, name) ∈ Kind.names → x.nodesNamed name = x.nodes k
  unnamed : ∀ name, name ∉ Kind.names.map (·.2) → x.nodesNamed name = []
  pointer : ∀ path a, Tree.at? ts path = some a →
    x.pointerOf? (view a).id = some (pointerTo path)
  size : x.size = (Tree.preorderAll ts).length

theorem Kind.ofName?_of_mem {k : Kind} {name : String} (h : (k, name) ∈ Kind.names) :
    Kind.ofName? name = some k := by
  have hall : ∀ e ∈ Kind.names, Kind.ofName? e.2 = some e.1 := by decide
  exact hall _ h

theorem Kind.ofName?_eq_none {name : String} (h : name ∉ Kind.names.map (·.2)) :
    Kind.ofName? name = none := by
  rw [ofName?, Option.map_eq_none_iff, List.find?_eq_none]
  intro e he heq
  exact h (List.mem_map.mpr ⟨e, he, by simpa using heq⟩)

theorem Index.describes_after (ts : List (Tree α)) (h : Indexable (Tree.preorderAll ts)) :
    (Walk.after (visitsOfPages ts)).index.Describes ts where
  specific := by
    intro k hlayer hgroup
    rw [Walk.nodes_index_after, nodes_visitsOfPages]
    simp only [NodeView.isOf_specific _ hlayer hgroup]
  anyLayer := by
    rw [Walk.nodes_index_after, nodes_visitsOfPages]
    rfl
  anyGroup := by
    rw [Walk.nodes_index_after, nodes_visitsOfPages]
    rfl
  named := by
    intro k name hname
    rw [Index.nodesNamed, Kind.ofName?_of_mem hname]
  unnamed := by
    intro name hname
    rw [Index.nodesNamed, Kind.ofName?_eq_none hname]
  pointer := by
    intro path a hat
    have hmem : visitAt pointerTo (path, a) ∈ visitsOfPages ts :=
      List.mem_map_of_mem ((Tree.mem_placesAll_iff ts path a).mpr hat)
    rw [Index.pointerOf?, Walk.visits_index_after]
    exact pointerIn?_of_mem (by rwa [nodes_visitsOfPages]) hmem
  size := by
    rw [Index.size, Walk.visits_index_after, ← nodes_visitsOfPages, List.length_map]

theorem Index.build_indexable (ts : List (Tree α)) (h : Indexable (Tree.preorderAll ts)) :
    Index.build (some ts) = .ok (Walk.after (visitsOfPages ts)).index := by
  rw [Index.build_eq_visitAll, Walk.visitAll_start _ (by rwa [nodes_visitsOfPages])]
  rfl

theorem Index.build_offence (ts : List (Tree α)) (before after : List (List Nat × α))
    (path : List Nat) (a : α) (hsplit : Tree.placesAll ts = before ++ (path, a) :: after)
    (hbefore : Indexable (before.map (·.2))) (hloss : ¬ Indexable (before.map (·.2) ++ [a]))
    (hplain : (view a).IsPlain) :
    ∃ f, Offence before path (view a) f ∧ Index.build (some ts) = .error (.document f) := by
  obtain ⟨f, hf, hfault⟩ := exists_offence hplain hbefore hloss
  have hvisits : visitsOfPages ts = before.map (visitAt pointerTo) ++
      visitAt pointerTo (path, a) :: after.map (visitAt pointerTo) := by
    rw [visitsOfPages, hsplit, List.map_append, List.map_cons]
  refine ⟨f, hf, ?_⟩
  rw [Index.build_eq_visitAll, hvisits,
    Walk.visitAll_start_fault _ _ _ _ (by simpa [Function.comp_def, visitAt] using hbefore) hfault]
  rfl

theorem Index.build_unindexable (ts : List (Tree α)) (h : ¬ Indexable (Tree.preorderAll ts)) :
    ∃ before path a after, Tree.placesAll ts = before ++ (path, a) :: after ∧
      Tree.at? ts path = some a ∧ Indexable (before.map (·.2)) ∧
      ((view a).IsPlain → ∃ f, Offence before path (view a) f ∧
        f.pointer = .str (pointerTo path) ∧ Index.build (some ts) = .error (.document f)) := by
  rw [← Tree.labels_placesAll ts] at h
  obtain ⟨before, ⟨path, a⟩, after, hsplit, hbefore, hloss⟩ :=
    exists_first_loss (fun l => Indexable (l.map (·.2))) indexable_nil (Tree.placesAll ts) h
  rw [List.map_append] at hloss
  have hat : Tree.at? ts path = some a := by
    rw [← Tree.mem_placesAll_iff, hsplit]
    simp
  refine ⟨before, path, a, after, hsplit, hat, hbefore, fun hplain => ?_⟩
  obtain ⟨f, hf, hbuild⟩ := Index.build_offence ts before after path a hsplit hbefore hloss hplain
  exact ⟨f, hf, by cases hf <;> rfl, hbuild⟩

/-- The index agrees with the recursion. It describes the document when the nodes can be indexed
together, and otherwise tells the offence of the first node in pre-order with which they cannot. -/
theorem Index.build_describes_or_rejects (ts : List (Tree α)) :
    Index.build (some ts) = Index.ofPreorder ts ∧
    (Indexable (Tree.preorderAll ts) →
      ∃ x, Index.build (some ts) = .ok x ∧ x.Describes ts) ∧
    (¬ Indexable (Tree.preorderAll ts) →
      ∃ before path a after, Tree.placesAll ts = before ++ (path, a) :: after ∧
        Tree.at? ts path = some a ∧ Indexable (before.map (·.2)) ∧
        ((view a).IsPlain → ∃ f, Offence before path (view a) f ∧
          f.pointer = .str (pointerTo path) ∧
          Index.build (some ts) = .error (.document f))) := by
  refine ⟨?_, fun h => ?_, Index.build_unindexable ts⟩
  · rw [Index.build_eq_visitAll, Index.ofPreorder_eq_visitAll]
  · exact ⟨_, Index.build_indexable ts h, Index.describes_after ts h⟩

/-! ## A page with two texts -/

def sampleNode (cls id : String) : NodeView where
  cls := .str cls
  id := .str id
  frame := some (some (.num (.whole 10)), some (.num (.whole 20)))

def samplePages (first second : String) : List (Tree NodeView) :=
  [.node (sampleNode "page" "p")
    [.node (sampleNode "text" first) [], .node (sampleNode "text" second) []]]

theorem preorder_samplePages (first second : String) :
    Tree.preorderAll (samplePages first second) =
      [sampleNode "page" "p", sampleNode "text" first, sampleNode "text" second] := rfl

theorem isComplete_sampleNode {cls id : String} (hcls : cls ≠ "") (hid : id ≠ "") :
    (view (sampleNode cls id)).IsComplete :=
  ⟨⟨cls, hcls, rfl⟩, ⟨id, hid, rfl⟩, ⟨_, _, rfl, rfl, rfl⟩⟩

theorem isPlain_sampleNode (cls id : String) : (view (sampleNode cls id)).IsPlain :=
  ⟨.inr ⟨cls, rfl⟩, .inr ⟨id, rfl⟩, .inr ⟨_, _, rfl⟩⟩

theorem Index.build_describes_or_rejects_twoTexts :
    (∃ x, Index.build (some (samplePages "a" "b")) = .ok x ∧
      x.nodesNamed "text" = [sampleNode "text" "a", sampleNode "text" "b"] ∧
      x.pointerOf? (.str "b") = some "/pages/0/layers/1" ∧ x.size = 3) ∧
    ∃ path f, Index.build (some (samplePages "a" "a")) = .error (.document f) ∧
      f.pointer = .str (pointerTo path) ∧ pointerTo path = "/pages/0/layers/1" := by
  refine ⟨?_, ?_⟩
  · have hindexable : Indexable (Tree.preorderAll (samplePages "a" "b")) := by
      rw [preorder_samplePages]
      refine ⟨?_, by simp [sampleNode, view]⟩
      simp [isComplete_sampleNode]
    obtain ⟨x, hx, hdescribes⟩ := (Index.build_describes_or_rejects _).2.1 hindexable
    refine ⟨x, hx, ?_, hdescribes.pointer [0, 1] _ rfl, hdescribes.size⟩
    rw [hdescribes.named .text "text" (by decide), hdescribes.specific .text (by decide) (by decide)]
    rfl
  · have htwins : ¬ Indexable (Tree.preorderAll (samplePages "a" "a")) := by
      intro h
      simpa [preorder_samplePages] using h.distinct
    obtain ⟨before, path, a, after, hsplit, _, _, hfault⟩ :=
      (Index.build_describes_or_rejects _).2.2 htwins
    have hplain : (view a).IsPlain := by
      have hmem : a ∈ Tree.preorderAll (samplePages "a" "a") := by
        rw [← Tree.labels_placesAll, hsplit]
        simp
      rw [preorder_samplePages] at hmem
      simp only [List.mem_cons, List.not_mem_nil, or_false] at hmem
      rcases hmem with rfl | rfl | rfl <;> exact isPlain_sampleNode _ _
    obtain ⟨f, _, hpointer, hbuild⟩ := hfault hplain
    have hrun : Index.build (some (samplePages "a" "a")) = .error (.document
        (.duplicateId "a" "/pages/0/layers/0" "/pages/0/layers/1")) := rfl
    cases hrun.symm.trans hbuild
    exact ⟨path, _, hrun, hpointer, (Json.str.inj hpointer).symm⟩

/-! ## Documents of layers -/

theorem isPlain_layer (l : Layer) : (view l).IsPlain where
  cls := .inr ⟨l.cls, rfl⟩
  id := .inr ⟨l.id, rfl⟩
  frame := .inr ⟨.float l.frame.width, .float l.frame.height, rfl⟩

theorem Index.indexable_of_build {ts : List (Tree Layer)} {x : Index Layer}
    (h : Index.build (some ts) = .ok x) :
    Indexable (Tree.preorderAll ts) ∧ x = (Walk.after (visitsOfPages ts)).index := by
  have hindexable : Indexable (Tree.preorderAll ts) := by
    by_contra hnot
    obtain ⟨_, _, a, _, _, _, _, hfault⟩ := Index.build_unindexable ts hnot
    obtain ⟨f, _, _, hbuild⟩ := hfault (isPlain_layer a)
    rw [hbuild] at h
    cases h
  have hbuild := Index.build_indexable ts hindexable
  rw [h] at hbuild
  exact ⟨hindexable, Except.ok.inj hbuild⟩

theorem Index.nodes_of_build {ts : List (Tree Layer)} {x : Index Layer}
    (h : Index.build (some ts) = .ok x) (k : Kind) :
    x.nodes k = (Tree.preorderAll ts).filter fun l => (view l).isOf k := by
  rw [(Index.indexable_of_build h).2, Walk.nodes_index_after, nodes_visitsOfPages]

theorem Index.pointerOf?_of_build {ts : List (Tree Layer)} {x : Index Layer}
    (h : Index.build (some ts) = .ok x) {e : List Nat × Layer} (he : e ∈ Tree.placesAll ts) :
    x.pointerOf? (.str e.2.id) = some (pointerTo e.1) := by
  obtain ⟨hindexable, rfl⟩ := Index.indexable_of_build h
  exact (Index.describes_after ts hindexable).pointer e.1 e.2 ((Tree.mem_placesAll_iff ts _ _).mp he)

theorem id_ne_of_indexable {ts : List (Tree Layer)} (h : Indexable (Tree.preorderAll ts)) {l : Layer}
    (hl : l ∈ Tree.preorderAll ts) : l.id ≠ "" := by
  obtain ⟨s, hs, hid⟩ := (h.complete l hl).id
  cases hid
  exact hs

theorem Index.id_ne_of_build {ts : List (Tree Layer)} {x : Index Layer}
    (h : Index.build (some ts) = .ok x) (k : Kind) : ∀ l ∈ x.nodes k, l.id ≠ "" := by
  intro l hl
  rw [Index.nodes_of_build h] at hl
  exact id_ne_of_indexable (Index.indexable_of_build h).1 (List.mem_filter.mp hl).1

end DesignLint
