/-! # Keyed lists -/

namespace DesignLint

/-- Values by name, in order of first insertion. -/
abbrev Keyed (α : Type) := List (String × α)

namespace Keyed

variable {α β : Type}

/-- The value of the first entry named `k`. -/
def get? : Keyed α → String → Option α
  | [], _ => none
  | e :: m, k => if e.1 = k then some e.2 else get? m k

def has (m : Keyed α) (k : String) : Bool := (m.get? k).isSome

/-- `m` with the value `v` for `k`: in place when `k` is there, else at the end. -/
def put : Keyed α → String → α → Keyed α
  | [], k, v => [(k, v)]
  | e :: m, k, v => if e.1 = k then (k, v) :: m else e :: put m k v

def erase (m : Keyed α) (k : String) : Keyed α := List.filter (fun e => e.1 ≠ k) m

def keys (m : Keyed α) : List String := List.map (·.1) m

def values (m : Keyed α) : List α := List.map (·.2) m

/-- `m` with every entry of `n` put into it. -/
def merge (m n : Keyed α) : Keyed α := List.foldl (fun m e => put m e.1 e.2) m n

def only (m : Keyed α) (p : String → Bool) : Keyed α := List.filter (fun e => p e.1) m

/-- Every entry put in turn into nothing, so that each name stands once. -/
def ofPairs (entries : List (String × α)) : Keyed α := merge [] entries

/-- The first present one of several names. -/
def first? (m : Keyed α) : List String → Option (String × α)
  | [] => none
  | k :: ks => match get? m k with
    | some v => some (k, v)
    | none => first? m ks

@[simp] theorem get?_nil (k : String) : get? ([] : Keyed α) k = none := rfl

theorem get?_cons (e : String × α) (m : Keyed α) (k : String) :
    get? (e :: m) k = if e.1 = k then some e.2 else get? m k := rfl

@[simp] theorem get?_put_self (m : Keyed α) (k : String) (v : α) : get? (put m k v) k = some v := by
  induction m with
  | nil => simp [put, get?]
  | cons e m ih =>
    by_cases h : e.1 = k
    · simp [put, get?, h]
    · simp [put, get?, h, ih]

theorem get?_put_of_ne (m : Keyed α) {j k : String} (v : α) (hjk : j ≠ k) :
    get? (put m j v) k = get? m k := by
  induction m with
  | nil => simp [put, get?, hjk]
  | cons e m ih =>
    by_cases h : e.1 = j
    · have hk : e.1 ≠ k := fun hk => hjk (h.symm.trans hk)
      simp [put, get?, h, hjk]
    · rw [put, if_neg h, get?_cons, get?_cons, ih]

theorem get?_put (m : Keyed α) (j k : String) (v : α) :
    get? (put m j v) k = if j = k then some v else get? m k := by
  by_cases h : j = k
  · subst h; simp
  · simp [h, get?_put_of_ne m v h]

theorem mem_of_get? {m : Keyed α} {k : String} {v : α} (h : get? m k = some v) : (k, v) ∈ m := by
  induction m with
  | nil => cases h
  | cons e m ih =>
    rw [get?_cons] at h
    split at h
    · rename_i hk
      cases h
      cases hk
      exact List.mem_cons_self
    · exact List.mem_cons_of_mem _ (ih h)

theorem mem_keys_iff (m : Keyed α) (k : String) : k ∈ keys m ↔ (get? m k).isSome := by
  induction m with
  | nil => simp [keys]
  | cons e m ih =>
    by_cases h : e.1 = k
    · simp [keys, get?, h]
    · have h' : ¬ k = e.1 := fun hk => h hk.symm
      simp only [keys] at ih
      simp [keys, get?, h, h', ← ih]

theorem keys_put (m : Keyed α) (k : String) (v : α) :
    keys (put m k v) = if k ∈ keys m then keys m else keys m ++ [k] := by
  induction m with
  | nil => simp [put, keys]
  | cons e m ih =>
    by_cases h : e.1 = k
    · simp [put, keys, h]
    · have h' : ¬ k = e.1 := fun hk => h hk.symm
      simp only [keys] at ih
      by_cases hm : k ∈ List.map (·.1) m <;> simp_all [put, keys]

end Keyed

end DesignLint
