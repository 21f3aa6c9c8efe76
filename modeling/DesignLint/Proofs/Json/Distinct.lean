import DesignLint.Json.Reader
import DesignLint.Proofs.Keyed
import DesignLint.Proofs.Outcome

/-! # Names in values that are read -/

namespace DesignLint.Json

/-- Every object in a value has each of its names once. -/
inductive HasDistinctKeys : Json → Prop
  | null : HasDistinctKeys .null
  | bool (b : Bool) : HasDistinctKeys (.bool b)
  | num (n : Number) : HasDistinctKeys (.num n)
  | str (s : String) : HasDistinctKeys (.str s)
  | arr {items : List Json} (h : ∀ v ∈ items, HasDistinctKeys v) : HasDistinctKeys (.arr items)
  | obj {fields : Keyed Json} (hkeys : (Keyed.keys fields).Nodup)
    (h : ∀ e ∈ fields, HasDistinctKeys e.2) : HasDistinctKeys (.obj fields)

theorem HasDistinctKeys.put {fields : Keyed Json} {v : Json}
    (hfields : (Json.obj fields).HasDistinctKeys) (k : String) (hv : v.HasDistinctKeys) :
    (Json.obj (Keyed.put fields k v)).HasDistinctKeys := by
  cases hfields with
  | obj hkeys h =>
    refine .obj (Keyed.nodup_keys_put hkeys k v) fun e he => ?_
    rcases Keyed.mem_put he with rfl | he
    · exact hv
    · exact h e he

namespace Reader

variable {c next : Cursor} {v : Json} {fuel : Nat}

theorem hasDistinctKeys_of_number (h : number c = .ok (v, next)) : v.HasDistinctKeys := by
  unfold number at h
  extract_lets negative s before after fraction fractionLength power last at h
  split at h
  · cases h
  · split at h
    · split at h
      · cases h
      · rw [← (Prod.mk.inj (Except.ok.inj h)).1]
        exact .num _
    · rw [← (Prod.mk.inj (Except.ok.inj h)).1]
      exact .num _

theorem hasDistinctKeys_of_word? (h : word? c = some (v, next)) : v.HasDistinctKeys := by
  obtain ⟨w, hw, heq⟩ := Option.map_eq_some_iff.mp h
  cases heq
  have hmem := List.mem_of_find?_eq_some hw
  simp only [words, List.mem_cons, List.not_mem_nil, or_false] at hmem
  rcases hmem with rfl | rfl | rfl | rfl | rfl | rfl
  · exact .null
  · exact .bool _
  · exact .bool _
  all_goals exact .num _

/-- What the reader yields has distinct names, with so much fuel. -/
structure DistinctAt (fuel : Nat) : Prop where
  value : ∀ c v next, value fuel c = .ok (v, next) → v.HasDistinctKeys
  items : ∀ c read l next, items fuel c read = .ok (l, next) → (arr read).HasDistinctKeys →
    (arr l).HasDistinctKeys
  members : ∀ c read r next, members fuel c read = .ok (r, next) → (obj read).HasDistinctKeys →
    (obj r).HasDistinctKeys

theorem hasDistinctKeys_of_value (ih : DistinctAt fuel) (h : value (fuel + 1) c = .ok (v, next)) :
    v.HasDistinctKeys := by
  rw [value] at h
  split at h
  · cases h
  · obtain ⟨r, -, heq⟩ := Outcome.map_eq_ok_iff.mp h
    cases heq
    exact .str _
  · extract_lets inside at h
    split at h
    · cases h
      exact .arr (by simp)
    · obtain ⟨r, hr, heq⟩ := Outcome.map_eq_ok_iff.mp h
      cases heq
      exact ih.items _ _ _ _ hr (.arr (by simp))
  · extract_lets inside at h
    split at h
    · cases h
      exact .obj List.nodup_nil (by simp)
    · obtain ⟨r, hr, heq⟩ := Outcome.map_eq_ok_iff.mp h
      cases heq
      exact ih.members _ _ _ _ hr (.obj List.nodup_nil (by simp))
  · split at h
    · rename_i hword
      cases h
      exact hasDistinctKeys_of_word? hword
    · exact hasDistinctKeys_of_number h

theorem hasDistinctKeys_of_items {read l : List Json} (ih : DistinctAt fuel)
    (h : items (fuel + 1) c read = .ok (l, next)) (hread : (arr read).HasDistinctKeys) :
    (arr l).HasDistinctKeys := by
  rw [items] at h
  split at h
  · cases h
  · rename_i w after hvalue
    have hmore : (arr (w :: read)).HasDistinctKeys := by
      cases hread with
      | arr hread => exact .arr (List.forall_mem_cons.mpr ⟨ih.value _ _ _ hvalue, hread⟩)
    extract_lets after' at h
    split at h
    · cases h
      cases hmore with
      | arr hmore => exact .arr fun v hv => hmore v (List.mem_reverse.mp hv)
    · exact ih.items _ _ _ _ h hmore
    · cases h

theorem hasDistinctKeys_of_members {read r : Keyed Json} (ih : DistinctAt fuel)
    (h : members (fuel + 1) c read = .ok (r, next)) (hread : (obj read).HasDistinctKeys) :
    (obj r).HasDistinctKeys := by
  rw [members] at h
  split at h
  · split at h
    · cases h
    · rename_i k _ _
      extract_lets after at h
      split at h
      · split at h
        · cases h
        · rename_i hvalue
          have hmore := hread.put k (ih.value _ _ _ hvalue)
          extract_lets after' at h
          split at h
          · cases h
            exact hmore
          · exact ih.members _ _ _ _ h hmore
          · cases h
      · cases h
  · cases h

theorem distinctAt (fuel : Nat) : DistinctAt fuel := by
  induction fuel with
  | zero =>
    refine ⟨fun c v next h => ?_, fun c read l next h => ?_, fun c read r next h => ?_⟩ <;>
      first | rw [value] at h | rw [items] at h | rw [members] at h
    all_goals cases h
  | succ fuel ih =>
    -- Each of the three calls the others with less fuel, so they are settled together.
    exact ⟨fun _ _ _ => hasDistinctKeys_of_value ih, fun _ _ _ _ => hasDistinctKeys_of_items ih,
      fun _ _ _ _ => hasDistinctKeys_of_members ih⟩

end Reader

theorem hasDistinctKeys_of_read {text : List Char} {v : Json} (h : read text = .ok v) :
    v.HasDistinctKeys := by
  unfold read readPlain Reader.whole at h
  split at h
  · cases h
  · split at h
    · rename_i hwhole
      cases h
      split at hwhole
      · cases hwhole
      · rename_i hvalue
        extract_lets last at hwhole
        split at hwhole
        · cases hwhole
          exact (Reader.distinctAt _).value _ _ _ hvalue
        · cases hwhole
    · cases h
    · cases h

end DesignLint.Json
