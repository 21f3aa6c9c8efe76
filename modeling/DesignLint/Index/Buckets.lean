import DesignLint.Index.Kind

/-! # Nodes by kind -/

namespace DesignLint

/-- Nodes by kind. Every kind has its one bucket, in the order of all kinds. -/
structure Buckets (α : Type) where
  entries : List (Kind × List α)
  kinds : entries.map (·.1) = Kind.all

namespace Buckets

variable {α : Type}

def empty : Buckets α where
  entries := Kind.all.map fun k => (k, [])
  kinds := by simp [Function.comp_def]

def get (b : Buckets α) (k : Kind) : List α := (b.entries.lookup k).getD []

def mapEach (f : Kind → List α → List α) (b : Buckets α) : Buckets α where
  entries := b.entries.map fun e => (e.1, f e.1 e.2)
  kinds := by rw [List.map_map, ← b.kinds]; rfl

/-- With one more node in front of those of a kind. -/
def put (b : Buckets α) (k : Kind) (a : α) : Buckets α :=
  b.mapEach fun j l => if j = k then a :: l else l

def reverse (b : Buckets α) : Buckets α := b.mapEach fun _ l => l.reverse

theorem lookup_map (f : Kind → List α → List α) (entries : List (Kind × List α)) (k : Kind) :
    (entries.map fun e => (e.1, f e.1 e.2)).lookup k = (entries.lookup k).map (f k) := by
  induction entries with
  | nil => rfl
  | cons e rest ih =>
    obtain ⟨j, l⟩ := e
    rw [List.map_cons, List.lookup_cons, List.lookup_cons, ih]
    by_cases h : k = j
    · subst h; simp
    · have hne : (k == j) = false := by simpa using h
      simp [hne]

@[simp] theorem get_empty (k : Kind) : (empty : Buckets α).get k = [] := by
  cases k <;> rfl

@[simp] theorem get_mapEach (f : Kind → List α → List α) (b : Buckets α) (k : Kind) :
    (b.mapEach f).get k = f k (b.get k) := by
  have hk : k ∈ b.entries.map (·.1) := by rw [b.kinds]; cases k <;> decide
  obtain ⟨e, he, rfl⟩ := List.mem_map.mp hk
  have hsome : (b.entries.lookup e.1).isSome :=
    List.lookup_isSome_iff.mpr ⟨e, he, beq_self_eq_true _⟩
  obtain ⟨l, hl⟩ := Option.isSome_iff_exists.mp hsome
  simp [get, mapEach, lookup_map, hl]

@[simp] theorem get_put (b : Buckets α) (k j : Kind) (a : α) :
    (b.put k a).get j = if j = k then a :: b.get j else b.get j := by
  rw [put, get_mapEach]

@[simp] theorem get_reverse (b : Buckets α) (k : Kind) : b.reverse.get k = (b.get k).reverse := by
  rw [reverse, get_mapEach]

end Buckets

end DesignLint
