import DesignLint.Check.Context
import DesignLint.Proofs.Outcome

/-! # Checks and the store -/

namespace DesignLint

/-! ## What a report makes -/

theorem Violation.rule_of_record {rule : String} {rest : Keyed Json} {v : Violation}
    (h : ofRecord (("rule_name", .str rule) :: rest) = .ok v) : v.rule = rule := by
  rw [ofRecord, Outcome.mapError_eq_ok_iff, ofFields, Outcome.map_eq_ok_iff] at h
  obtain ⟨fields, hfields, rfl⟩ := h
  have hrule := (Outcome.both_eq_ok_iff.mp hfields).1
  have hname : Field.required ["rule_name"] Field.text (("rule_name", Json.str rule) :: rest) =
      .ok rule := by
    simp [Field.required, Keyed.first?, Keyed.get?, Field.text, Checked.within, Except.mapError]
  rw [hname, Except.ok.injEq] at hrule
  exact hrule.symm

theorem Context.rule_of_violation {c : Context} {message severity : Json} {subject : Subject}
    {v : Violation} (h : c.violation message subject severity = .ok v) : v.rule = c.rule := by
  unfold Context.violation at h
  split at h
  · cases h
  · rw [Outcome.bind_eq_ok_iff] at h
    obtain ⟨sev, _, h⟩ := h
    rw [Outcome.bind_eq_ok_iff] at h
    obtain ⟨pointer, _, h⟩ := h
    exact Violation.rule_of_record h

namespace Session

/-! ## Sessions over a longer store -/

def atop (earlier : Store) (s : Session) : Session := { s with store := earlier ++ s.store }

@[simp] theorem store_atop (earlier : Store) (s : Session) :
    (s.atop earlier).store = earlier ++ s.store := rfl

@[simp] theorem start_atop (earlier : Store) : (start []).atop earlier = start earlier := by
  simp [atop, start]

theorem record_atop (earlier : Store) (s : Session) (v : Violation) :
    (s.atop earlier).record v = (s.record v).atop earlier := by
  simp [atop, record, List.append_assoc]

end Session

theorem Context.report_atop (c : Context) (earlier : Store) (s : Session) (message : Json)
    (subject : Subject) (severity : Json) :
    c.report (s.atop earlier) message subject severity =
      ((c.report s message subject severity).1,
        (c.report s message subject severity).2.atop earlier) := by
  unfold Context.report
  change (if s.closed then _ else _) = _
  split
  · rfl
  · cases c.violation message subject severity with
    | ok v => simp only [Session.record_atop]
    | error f => rfl

/-- A check neither sees nor changes what is stored before its own violations. -/
theorem Check.run_atop {α : Type} (c : Context) (p : Check α) (earlier : Store) (s : Session) :
    p.run c (s.atop earlier) = ((p.run c s).1, (p.run c s).2.atop earlier) := by
  induction p generalizing s with
  | done a => rfl
  | fail f => rfl
  | reporting m subject sev next ih =>
    simp only [run, Context.report_atop]
    exact ih _ _
  | reading n next ih => exact ih _ s
  | inspecting next ih => exact ih _ s
  | counting next ih => exact ih _ s
  | askingClosed next ih => exact ih _ s
  | closing next ih => exact ih s.close
  | noting v next ih => exact ih (s.addNote v)

/-! ## What a check adds -/

/-- From one session to another the store has grown by violations of one rule, which are counted. -/
structure Session.Grows (rule : String) (s t : Session) (own : List Violation) : Prop where
  store : t.store = s.store ++ own
  reported : t.reported = s.reported + own.length
  named : ∀ v ∈ own, v.rule = rule

namespace Session.Grows

variable {rule : String} {s t u : Session} {own more : List Violation}

theorem refl (rule : String) (s : Session) : Grows rule s s [] := ⟨by simp, rfl, by simp⟩

theorem trans (h : Grows rule s t own) (k : Grows rule t u more) :
    Grows rule s u (own ++ more) where
  store := by rw [k.store, h.store, List.append_assoc]
  reported := by rw [k.reported, h.reported, List.length_append, Nat.add_assoc]
  named := by
    intro v hv
    exact (List.mem_append.mp hv).elim (h.named v) (k.named v)

theorem record (s : Session) (v : Violation) : Grows v.rule s (s.record v) [v] :=
  ⟨rfl, rfl, by simp⟩

end Session.Grows

theorem Context.report_grows (c : Context) (s : Session) (message : Json) (subject : Subject)
    (severity : Json) : ∃ own, Session.Grows c.rule s (c.report s message subject severity).2 own := by
  unfold Context.report
  split
  · exact ⟨[], .refl _ _⟩
  · split
    · rename_i v hv
      rw [← Context.rule_of_violation hv]
      exact ⟨[v], .record s v⟩
    · exact ⟨[], .refl _ _⟩

theorem Check.run_grows {α : Type} (c : Context) (p : Check α) (s : Session) :
    ∃ own, Session.Grows c.rule s (p.run c s).2 own := by
  induction p generalizing s with
  | done a => exact ⟨[], .refl _ _⟩
  | fail f => exact ⟨[], .refl _ _⟩
  | reporting m subject sev next ih =>
    obtain ⟨own, hown⟩ := c.report_grows s m subject sev
    obtain ⟨more, hmore⟩ := ih (c.report s m subject sev).1 (c.report s m subject sev).2
    exact ⟨own ++ more, hown.trans hmore⟩
  | reading n next ih => exact ih _ s
  | inspecting next ih => exact ih _ s
  | counting next ih => exact ih _ s
  | askingClosed next ih => exact ih _ s
  | closing next ih =>
    obtain ⟨own, hown⟩ := ih s.close
    exact ⟨own, hown.store, hown.reported, hown.named⟩
  | noting v next ih =>
    obtain ⟨own, hown⟩ := ih (s.addNote v)
    exact ⟨own, hown.store, hown.reported, hown.named⟩

end DesignLint
