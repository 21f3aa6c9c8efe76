import DesignLint.Problem
import Mathlib.Data.List.Forall2

/-! # Outcomes -/

namespace DesignLint.Outcome

variable {ε ε' α β : Type}

theorem bind_eq_ok_iff {x : Except ε α} {k : α → Except ε β} {b : β} :
    (x >>= k) = .ok b ↔ ∃ a, x = .ok a ∧ k a = .ok b := by
  cases x <;> simp [bind, Except.bind]

theorem bind_eq_error_iff {x : Except ε α} {k : α → Except ε β} {e : ε} :
    (x >>= k) = .error e ↔ x = .error e ∨ ∃ a, x = .ok a ∧ k a = .error e := by
  cases x <;> simp [bind, Except.bind]

theorem map_eq_ok_iff {x : Except ε α} {f : α → β} {b : β} :
    x.map f = .ok b ↔ ∃ a, x = .ok a ∧ f a = b := by
  cases x <;> simp [Except.map]

theorem map_eq_error_iff {x : Except ε α} {f : α → β} {e : ε} :
    x.map f = .error e ↔ x = .error e := by
  cases x <;> simp [Except.map]

theorem mapError_eq_ok_iff {x : Except ε α} {f : ε → ε'} {a : α} :
    x.mapError f = .ok a ↔ x = .ok a := by
  cases x <;> simp [Except.mapError]

theorem mapError_eq_error_iff {x : Except ε α} {f : ε → ε'} {e : ε'} :
    x.mapError f = .error e ↔ ∃ e', x = .error e' ∧ f e' = e := by
  cases x <;> simp [Except.mapError]

theorem exists_of_isOk {x : Except ε α} (h : x.isOk = true) : ∃ a, x = .ok a := by
  cases x with
  | error e => cases h
  | ok a => exact ⟨a, rfl⟩

theorem both_eq_ok_iff {x : Checked α} {y : Checked β} {p : α × β} :
    Checked.both x y = .ok p ↔ x = .ok p.1 ∧ y = .ok p.2 := by
  obtain ⟨a, b⟩ := p
  cases x <;> cases y <;> simp [Checked.both]

/-! ## Lists -/

variable {f : α → Except ε β}

theorem mapM_eq_ok_iff {l : List α} {m : List β} :
    l.mapM f = .ok m ↔ List.Forall₂ (fun a b => f a = .ok b) l m := by
  induction l generalizing m with
  | nil => cases m <;> simp [pure, Except.pure]
  | cons a l ih =>
    rw [List.mapM_cons, bind_eq_ok_iff, List.forall₂_cons_left_iff]
    simp only [bind_eq_ok_iff, ih, pure, Except.pure, Except.ok.injEq]
    constructor
    · rintro ⟨b, hb, m, hm, rfl⟩
      exact ⟨b, m, hb, hm, rfl⟩
    · rintro ⟨b, m, hb, hm, rfl⟩
      exact ⟨b, hb, m, hm, rfl⟩

theorem exists_mapM_eq_ok_iff {l : List α} :
    (∃ m, l.mapM f = .ok m) ↔ ∀ a ∈ l, ∃ b, f a = .ok b := by
  induction l with
  | nil => simp [pure, Except.pure]
  | cons a l ih =>
    rw [List.forall_mem_cons, ← ih]
    simp only [List.mapM_cons, bind_eq_ok_iff, pure, Except.pure, Except.ok.injEq]
    constructor
    · rintro ⟨_, b, hb, m, hm, _⟩
      exact ⟨⟨b, hb⟩, m, hm⟩
    · rintro ⟨⟨b, hb⟩, m, hm⟩
      exact ⟨b :: m, b, hb, m, hm, rfl⟩

theorem mapM_eq_some_iff {f : α → Option β} {l : List α} {m : List β} :
    l.mapM f = some m ↔ List.Forall₂ (fun a b => f a = some b) l m := by
  induction l generalizing m with
  | nil => cases m <;> simp
  | cons a l ih =>
    rw [List.mapM_cons, List.forall₂_cons_left_iff]
    simp only [Option.bind_eq_bind, Option.bind_eq_some_iff, ih, Option.pure_def, Option.some.injEq]
    constructor
    · rintro ⟨b, hb, m, hm, rfl⟩
      exact ⟨b, m, hb, hm, rfl⟩
    · rintro ⟨b, m, hb, hm, rfl⟩
      exact ⟨b, hb, m, hm, rfl⟩

theorem exists_mapM_eq_some_iff {f : α → Option β} {l : List α} :
    (∃ m, l.mapM f = some m) ↔ ∀ a ∈ l, ∃ b, f a = some b := by
  induction l with
  | nil => simp
  | cons a l ih =>
    rw [List.forall_mem_cons, ← ih]
    simp only [List.mapM_cons, Option.bind_eq_bind, Option.bind_eq_some_iff, Option.pure_def,
      Option.some.injEq]
    constructor
    · rintro ⟨_, b, hb, m, hm, _⟩
      exact ⟨⟨b, hb⟩, m, hm⟩
    · rintro ⟨⟨b, hb⟩, m, hm⟩
      exact ⟨b :: m, b, hb, m, hm, rfl⟩

theorem mapM_eq_error_iff {l : List α} {e : ε} :
    l.mapM f = .error e ↔ ∃ before a after, l = before ++ a :: after ∧
      (∀ b ∈ before, ∃ c, f b = .ok c) ∧ f a = .error e := by
  induction l with
  | nil => simp [pure, Except.pure]
  | cons a l ih =>
    rw [List.mapM_cons, bind_eq_error_iff]
    constructor
    · rintro (ha | ⟨c, hc, h⟩)
      · exact ⟨[], a, l, rfl, by simp, ha⟩
      · have hl : l.mapM f = .error e := by
          rcases bind_eq_error_iff.mp h with hl | ⟨m, _, ⟨⟩⟩
          exact hl
        obtain ⟨before, b, after, rfl, hbefore, hb⟩ := ih.mp hl
        exact ⟨a :: before, b, after, rfl, List.forall_mem_cons.mpr ⟨⟨c, hc⟩, hbefore⟩, hb⟩
    · rintro ⟨before, b, after, hsplit, hbefore, hb⟩
      cases before with
      | nil =>
        cases hsplit
        exact .inl hb
      | cons b' before =>
        cases hsplit
        obtain ⟨⟨c, hc⟩, hbefore⟩ := List.forall_mem_cons.mp hbefore
        have hl := ih.mpr ⟨before, b, after, rfl, hbefore, hb⟩
        exact .inr ⟨c, hc, bind_eq_error_iff.mpr (.inl hl)⟩

theorem mapM_eq_error_of_mem {l : List α} {e : ε} (hall : ∀ a ∈ l, (∃ b, f a = .ok b) ∨ f a = .error e)
    (hmem : ∃ a ∈ l, f a = .error e) : l.mapM f = .error e := by
  cases hmap : l.mapM f with
  | ok m =>
    obtain ⟨a, ha, hfails⟩ := hmem
    obtain ⟨b, hb⟩ := exists_mapM_eq_ok_iff.mp ⟨m, hmap⟩ a ha
    cases hb.symm.trans hfails
  | error e' =>
    obtain ⟨before, a, after, rfl, -, hfails⟩ := mapM_eq_error_iff.mp hmap
    rcases hall a (by simp) with ⟨b, hb⟩ | hsame
    · cases hb.symm.trans hfails
    · cases hsame.symm.trans hfails
      rfl

theorem filterMap_of_forall₂ {γ : Type} {R : α → β → Prop} {g : α → Option γ} {h : β → Option γ}
    {l : List α} {m : List β} (hall : List.Forall₂ R l m) (hsame : ∀ a b, R a b → h b = g a) :
    m.filterMap h = l.filterMap g := by
  induction hall with
  | nil => rfl
  | cons hab _ ih => rw [List.filterMap_cons, List.filterMap_cons, hsame _ _ hab, ih]

theorem flatMap_of_forall₂ {γ : Type} {R : α → β → Prop} {g : α → List γ} {h : β → List γ}
    {l : List α} {m : List β} (hall : List.Forall₂ R l m) (hsame : ∀ a b, R a b → h b = g a) :
    m.flatMap h = l.flatMap g := by
  induction hall with
  | nil => rfl
  | cons hab _ ih => rw [List.flatMap_cons, List.flatMap_cons, hsame _ _ hab, ih]

theorem forall₂_comp {γ : Type} {R : α → β → Prop} {S : β → γ → Prop} {l : List α} {m : List β}
    {n : List γ} (hlm : List.Forall₂ R l m) (hmn : List.Forall₂ S m n) :
    List.Forall₂ (fun a c => ∃ b, R a b ∧ S b c) l n := by
  induction hlm generalizing n with
  | nil =>
    cases hmn
    exact .nil
  | cons hab _ ih =>
    cases hmn with
    | cons hbc hrest => exact .cons ⟨_, hab, hbc⟩ (ih hrest)

theorem exists_getElem?_of_forall₂ {R : α → β → Prop} {l : List α} {m : List β}
    (hall : List.Forall₂ R l m) {i : Nat} {b : β} (hb : m[i]? = some b) :
    ∃ a, l[i]? = some a ∧ R a b := by
  induction hall generalizing i with
  | nil => cases hb
  | cons hab _ ih =>
    cases i with
    | zero =>
      cases hb
      exact ⟨_, rfl, hab⟩
    | succ i => exact ih hb

theorem exists_of_mem_mapM {l : List α} {m : List β} (h : l.mapM f = .ok m) {b : β} (hb : b ∈ m) :
    ∃ a ∈ l, f a = .ok b := by
  have hall := mapM_eq_ok_iff.mp h
  clear h
  induction hall with
  | nil => cases hb
  | cons hab _ ih =>
    rcases List.mem_cons.mp hb with rfl | hb
    · exact ⟨_, List.mem_cons_self, hab⟩
    · obtain ⟨a, ha, hf⟩ := ih hb
      exact ⟨a, List.mem_cons_of_mem _ ha, hf⟩

theorem mapM_append_cons_eq_ok {before after : List α} {a : α} {m : List β}
    (h : (before ++ a :: after).mapM f = .ok m) :
    ∃ l b k, m = l ++ b :: k ∧ before.mapM f = .ok l ∧ f a = .ok b ∧ after.mapM f = .ok k := by
  rw [List.mapM_append, bind_eq_ok_iff] at h
  obtain ⟨l, hl, h⟩ := h
  rw [bind_eq_ok_iff] at h
  obtain ⟨m, hm, ⟨⟩⟩ := h
  rw [List.mapM_cons, bind_eq_ok_iff] at hm
  obtain ⟨b, hb, hm⟩ := hm
  rw [bind_eq_ok_iff] at hm
  obtain ⟨k, hk, ⟨⟩⟩ := hm
  exact ⟨l, b, k, rfl, hl, hb, hk⟩

theorem exists_mem_of_mapM {l : List α} {m : List β} (h : l.mapM f = .ok m) {a : α} (ha : a ∈ l) :
    ∃ b ∈ m, f a = .ok b := by
  obtain ⟨before, after, rfl⟩ := List.append_of_mem ha
  obtain ⟨_, b, _, rfl, -, hb, -⟩ := mapM_append_cons_eq_ok h
  exact ⟨b, by simp, hb⟩

end DesignLint.Outcome
