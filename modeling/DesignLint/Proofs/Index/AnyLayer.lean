import DesignLint.Proofs.Document.Indexing

/-!
# The collection of all layers

Pages are the nodes at the top of a document, whatever their class. But the index takes every node
for a layer that is not of the class of pages.
-/

namespace DesignLint

/-! ## Nodes below the top -/

namespace Tree

variable {α : Type} {ts : List (Tree α)} {a : α}

/-- The labels strictly below the top, in pre-order. -/
def belowAll (ts : List (Tree α)) : List α := ts.flatMap fun t => preorderAll t.children

theorem preorder_eq (t : Tree α) : preorder t = t.label :: preorderAll t.children := by
  cases t
  rfl

theorem mem_preorderAll_iff : a ∈ preorderAll ts ↔ ∃ path, at? ts path = some a := by
  rw [← labels_placesAll]
  simp [mem_placesAll_iff]

theorem at?_top (ts : List (Tree α)) (i : Nat) : at? ts [i] = ts[i]?.map label := by
  cases h : ts[i]? <;> simp [at?, subtree?, h]

theorem at?_below (ts : List (Tree α)) (i j : Nat) (steps : List Nat) :
    at? ts (i :: j :: steps) = ts[i]?.bind fun t => at? t.children (j :: steps) := by
  cases h : ts[i]? <;> simp [at?, subtree?, h]

theorem mem_belowAll_iff : a ∈ belowAll ts ↔ ∃ path, 2 ≤ path.length ∧ at? ts path = some a := by
  simp only [belowAll, List.mem_flatMap, mem_preorderAll_iff]
  constructor
  · rintro ⟨t, ht, path, hpath⟩
    obtain ⟨i, hi⟩ := List.mem_iff_getElem?.mp ht
    cases path with
    | nil => cases hpath
    | cons j steps => exact ⟨i :: j :: steps, by simp, by rw [at?_below, hi]; exact hpath⟩
  · rintro ⟨path, hlength, hpath⟩
    match path, hlength with
    | i :: j :: steps, _ =>
      rw [at?_below] at hpath
      obtain ⟨t, ht, hpath⟩ := Option.bind_eq_some_iff.mp hpath
      exact ⟨t, List.mem_of_getElem? ht, j :: steps, hpath⟩

theorem preorderAll_perm (ts : List (Tree α)) :
    (preorderAll ts).Perm (ts.map label ++ belowAll ts) := by
  induction ts with
  | nil => exact .nil
  | cons t ts ih =>
    rw [preorderAll, preorder_eq, List.cons_append, List.map_cons, List.cons_append]
    exact .cons _ ((ih.append_left _).trans (List.perm_append_comm_assoc _ _ _))

theorem filter_preorderAll {p : α → Bool} (htop : ∀ t ∈ ts, p t.label = false)
    (hbelow : ∀ b ∈ belowAll ts, p b = true) : (preorderAll ts).filter p = belowAll ts := by
  induction ts with
  | nil => rfl
  | cons t ts ih =>
    obtain ⟨hlabel, htop⟩ := List.forall_mem_cons.mp htop
    have hsplit : belowAll (t :: ts) = preorderAll t.children ++ belowAll ts := List.flatMap_cons
    rw [hsplit, List.forall_mem_append] at hbelow
    rw [preorderAll, preorder_eq, List.cons_append, List.filter_cons, hlabel, List.filter_append,
      List.filter_eq_self.mpr hbelow.1, ih htop hbelow.2, hsplit]
    rfl

end Tree

/-! ## The law -/

/-- A node goes by the class of pages just when it stands at the top. -/
def ClassTellsPlace (ts : List (Tree Layer)) : Prop :=
  ∀ path l, Tree.at? ts path = some l → (l.cls = "page" ↔ path.length = 1)

theorem classTellsPlace_iff {ts : List (Tree Layer)} :
    ClassTellsPlace ts ↔
      (∀ t ∈ ts, t.label.cls = "page") ∧ ∀ l ∈ Tree.belowAll ts, l.cls ≠ "page" := by
  constructor
  · intro h
    refine ⟨fun t ht => ?_, fun l hl hpage => ?_⟩
    · obtain ⟨i, hi⟩ := List.mem_iff_getElem?.mp ht
      exact (h [i] t.label (by rw [Tree.at?_top, hi]; rfl)).mpr rfl
    · obtain ⟨path, hlength, hpath⟩ := Tree.mem_belowAll_iff.mp hl
      have htop := (h path l hpath).mp hpage
      omega
  · rintro ⟨htop, hbelow⟩ path l hpath
    match path with
    | [] => cases hpath
    | [i] =>
      rw [Tree.at?_top] at hpath
      obtain ⟨t, ht, rfl⟩ := Option.map_eq_some_iff.mp hpath
      exact iff_of_true (htop t (List.mem_of_getElem? ht)) rfl
    | i :: j :: steps =>
      have hl : l ∈ Tree.belowAll ts := Tree.mem_belowAll_iff.mpr ⟨_, by simp, hpath⟩
      exact iff_of_false (hbelow l hl) (by simp)

namespace Index

variable {ts : List (Tree Layer)} {x : Index Layer}

theorem nodes_anyLayer (h : Index.build (some ts) = .ok x) :
    x.nodes .anyLayer = (Tree.preorderAll ts).filter fun l => l.cls ≠ "page" := by
  rw [nodes_of_build h]
  refine List.filter_congr fun l _ => ?_
  have hclass : (view l).isOf .anyLayer = decide (some l.cls ≠ some "page") := rfl
  simp [hclass]

/-- The collection of all layers lists just the nodes below the pages exactly when the class of each
node tells whether it is a page. -/
theorem anyLayer_eq_belowAll_iff (h : Index.build (some ts) = .ok x) :
    x.nodes .anyLayer = (Tree.preorderAll ts).filter (fun l => l.cls ≠ "page") ∧
    ((x.nodes .anyLayer).map (·.id)).Nodup ∧
    (x.nodes .anyLayer = Tree.belowAll ts ↔ ClassTellsPlace ts) := by
  have hnodes := nodes_anyLayer h
  have hids : ((Tree.preorderAll ts).map (·.id)).Nodup :=
    (Document.nodup_ids_iff _).mpr (indexable_of_build h).1.distinct
  refine ⟨hnodes, ?_, ?_⟩
  · rw [hnodes]
    exact hids.sublist (List.filter_sublist.map _)
  · rw [hnodes, classTellsPlace_iff]
    constructor
    · intro heq
      refine ⟨fun t ht => ?_, fun l hl => ?_⟩
      · -- A page of another class would be listed, but it is not below the top.
        by_contra hpage
        have hapart := (Tree.preorderAll_perm ts).nodup_iff.mp hids.of_map
        rw [List.nodup_append] at hapart
        have hlabel := List.mem_map_of_mem (f := Tree.label) ht
        have hmem : t.label ∈ Tree.belowAll ts := by
          rw [← heq, List.mem_filter]
          refine ⟨(Tree.preorderAll_perm ts).mem_iff.mpr (List.mem_append_left _ hlabel), ?_⟩
          simpa using hpage
        exact hapart.2.2 _ hlabel _ hmem rfl
      · rw [← heq, List.mem_filter] at hl
        simpa using hl.2
    · rintro ⟨htop, hbelow⟩
      exact Tree.filter_preorderAll (by simpa using htop) (by simpa using hbelow)

theorem anyLayer_eq_belowAll_iff_rawPair :
    ∃ d x, Document.load (.value (Document.rawPair "page" "rectangle")) = .ok d ∧
      Index.build (some d.pages) = .ok x ∧ ClassTellsPlace d.pages ∧
      x.nodes .anyLayer = Tree.belowAll d.pages ∧ (Tree.belowAll d.pages).map (·.id) = ["l"] := by
  have hload : Document.load (.value (Document.rawPair "page" "rectangle")) = .ok _ := rfl
  refine ⟨_, _, hload, rfl, ?_⟩
  suffices htells : ClassTellsPlace _ from
    ⟨htells, (anyLayer_eq_belowAll_iff rfl).2.2.mpr htells, rfl⟩
  rw [classTellsPlace_iff]
  refine ⟨by simp [Tree.label], ?_⟩
  simp [Tree.belowAll, Tree.children, Tree.preorderAll, Tree.preorder]

theorem rawPair_swapped :
    ∃ d x, Document.load (.value (Document.rawPair "rectangle" "page")) = .ok d ∧
      Index.build (some d.pages) = .ok x ∧ (d.pages.map (·.label.id)) = ["p"] ∧
      (Tree.belowAll d.pages).map (·.id) = ["l"] ∧ (x.nodes .anyLayer).map (·.id) = ["p"] :=
  ⟨_, _, rfl, rfl, rfl, rfl, rfl⟩

end Index

end DesignLint
