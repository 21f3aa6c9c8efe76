import DesignLint.Proofs.Check.Session
import DesignLint.Check.Options

/-! # Accepted reports -/

namespace DesignLint

structure Accepted where
  message : Json
  subject : Subject
  severity : Json
  violation : Violation

/-! ## One report -/

namespace Context

variable {c : Context} {message severity : Json} {subject : Subject} {v : Violation}

def accepted (c : Context) (s : Session) (message : Json) (subject : Subject) (severity : Json) :
    List Accepted :=
  match (c.report s message subject severity).1 with
  | .ok v => [⟨message, subject, severity, v⟩]
  | .error _ => []

theorem store_report (c : Context) (s : Session) (message : Json) (subject : Subject)
    (severity : Json) : (c.report s message subject severity).2.store =
      s.store ++ (c.accepted s message subject severity).map (·.violation) := by
  unfold accepted report
  split
  · simp
  · cases c.violation message subject severity with
    | ok v => rfl
    | error f => simp

theorem violation_of_accepted {s : Session} {a : Accepted}
    (h : a ∈ c.accepted s message subject severity) :
    a = ⟨message, subject, severity, a.violation⟩ ∧
      c.violation message subject severity = .ok a.violation := by
  unfold accepted report at h
  split at h
  · rename_i v hv
    obtain rfl := List.mem_singleton.mp h
    refine ⟨rfl, ?_⟩
    split at hv
    · cases hv
    · split at hv
      · rename_i hviolation
        cases hv
        exact hviolation
      · cases hv
  · cases h

end Context

/-! ## The severity of a violation -/

theorem Violation.severity_of_record {rule : String} {message : Json} {severity : Severity}
    {rest : Keyed Json} {v : Violation}
    (h : ofRecord (("rule_name", .str rule) :: ("message", message) ::
      ("severity", .str severity.name) :: rest) = .ok v) : v.severity = severity := by
  rw [ofRecord, Outcome.mapError_eq_ok_iff, ofFields, Outcome.map_eq_ok_iff] at h
  obtain ⟨fields, hfields, rfl⟩ := h
  have hrest := (Outcome.both_eq_ok_iff.mp hfields).2
  have hseverity := (Outcome.both_eq_ok_iff.mp (Outcome.both_eq_ok_iff.mp hrest).2).1
  have hname : Field.required ["severity"] (Field.choice Severity.names)
      (("rule_name", .str rule) :: ("message", message) :: ("severity", .str severity.name) ::
        rest) = .ok severity := by
    cases severity <;> rfl
  rw [hname, Except.ok.injEq] at hseverity
  exact hseverity.symm

namespace Context

variable {c : Context} {message severity : Json} {subject : Subject} {v : Violation}

theorem severityOf_of_violation (h : c.violation message subject severity = .ok v) :
    c.severityOf severity = .ok v.severity := by
  unfold violation at h
  split at h
  · cases h
  · obtain ⟨sev, hsev, h⟩ := Outcome.bind_eq_ok_iff.mp h
    obtain ⟨pointer, _, h⟩ := Outcome.bind_eq_ok_iff.mp h
    rw [hsev, Violation.severity_of_record h]

theorem severity_of_violation (h : c.violation message subject severity = .ok v)
    (hgiven : severity.isGiven = false) : v.severity = c.severity := by
  have hseverity := severityOf_of_violation h
  rw [severityOf, if_neg (by simp [hgiven]), Except.ok.injEq] at hseverity
  exact hseverity.symm

end Context

/-! ## The reports of a check -/

namespace Check

variable {α β : Type} {c : Context}

def accepted (c : Context) : Check α → Session → List Accepted
  | done _, _ => []
  | fail _, _ => []
  | reporting m subject sev next, s =>
    c.accepted s m subject sev ++
      (next (c.report s m subject sev).1).accepted c (c.report s m subject sev).2
  | reading n next, s => (next (c.option s n)).accepted c s
  | inspecting next, s => (next c.index).accepted c s
  | counting next, s => (next s.reported).accepted c s
  | askingClosed next, s => (next s.closed).accepted c s
  | closing next, s => next.accepted c s.close
  | noting v next, s => next.accepted c (s.addNote v)

theorem store_run (c : Context) (p : Check α) (s : Session) :
    (p.run c s).2.store = s.store ++ (p.accepted c s).map (·.violation) := by
  induction p generalizing s with
  | done a => simp [run, accepted]
  | fail f => simp [run, accepted]
  | reporting m subject sev next ih =>
    rw [accepted, List.map_append, ← List.append_assoc, ← Context.store_report]
    exact ih _ _
  | reading n next ih => exact ih _ s
  | inspecting next ih => exact ih _ s
  | counting next ih => exact ih _ s
  | askingClosed next ih => exact ih _ s
  | closing next ih => exact ih s.close
  | noting v next ih => exact ih (s.addNote v)

theorem violation_of_accepted {p : Check α} {s : Session} {a : Accepted} (h : a ∈ p.accepted c s) :
    c.violation a.message a.subject a.severity = .ok a.violation := by
  induction p generalizing s with
  | done => cases h
  | fail => cases h
  | reporting m subject sev next ih =>
    rcases List.mem_append.mp h with h | h
    · obtain ⟨heq, hviolation⟩ := Context.violation_of_accepted h
      rw [heq]
      exact hviolation
    · exact ih _ h
  | reading n next ih => exact ih _ h
  | inspecting next ih => exact ih _ h
  | counting next ih => exact ih _ h
  | askingClosed next ih => exact ih _ h
  | closing next ih => exact ih h
  | noting v next ih => exact ih h

theorem accepted_andThen (c : Context) (p : Check α) (k : α → Check β) (s : Session) :
    (p.andThen k).accepted c s = p.accepted c s ++
      match p.run c s with
      | (.ok a, t) => (k a).accepted c t
      | (.error _, _) => [] := by
  induction p generalizing s with
  | done a => rfl
  | fail f => rfl
  | reporting m subject sev next ih =>
    simp only [andThen, accepted, ih, List.append_assoc]
    rfl
  | reading n next ih => exact ih _ s
  | inspecting next ih => exact ih _ s
  | counting next ih => exact ih _ s
  | askingClosed next ih => exact ih _ s
  | closing next ih => exact ih s.close
  | noting v next ih => exact ih (s.addNote v)

/-! ## Checks that only report one sort of thing -/

/-- In a context, a check has no other reports accepted than those of which `P` holds. -/
def ReportsOnly (c : Context) (P : Accepted → Prop) (p : Check α) : Prop :=
  ∀ s, ∀ a ∈ p.accepted c s, P a

namespace ReportsOnly

variable {P : Accepted → Prop}

theorem ofResult (x : Except Fault α) : ReportsOnly c P (Check.ofResult x) := by
  intro s a ha
  cases x <;> cases ha

theorem option (name : String) : ReportsOnly c P (Check.option name) := by
  intro s
  exact ReportsOnly.ofResult (c.option s name) s

theorem andThen {p : Check α} {k : α → Check β} (hp : ReportsOnly c P p)
    (hk : ∀ a, ReportsOnly c P (k a)) : ReportsOnly c P (p.andThen k) := by
  intro s a ha
  rw [accepted_andThen] at ha
  rcases List.mem_append.mp ha with ha | ha
  · exact hp s a ha
  · split at ha
    · exact hk _ _ a ha
    · cases ha

theorem floatOption (name : String) : ReportsOnly c P (Check.floatOption name) :=
  (option name).andThen fun v => by
    split
    · exact ofResult (.ok _)
    · exact ofResult (.error _)

theorem textOption (name : String) : ReportsOnly c P (Check.textOption name) :=
  (option name).andThen fun v => by
    split
    · exact ofResult (.ok _)
    · exact ofResult (.error _)

theorem flagOption (name : String) : ReportsOnly c P (Check.flagOption name) :=
  (option name).andThen fun _ => ofResult (.ok _)

theorem textsOption (name : String) : ReportsOnly c P (Check.textsOption name) :=
  (option name).andThen fun v => by
    split
    · exact ofResult _
    · exact ofResult (.error _)

theorem objects_bind {k : Index Layer → Check β} (h : ReportsOnly c P (k c.index)) :
    ReportsOnly c P (objects >>= k) := h

theorem report {message severity : Json} {subject : Subject}
    (h : ∀ v, c.violation message subject severity = .ok v → P ⟨message, subject, severity, v⟩) :
    ReportsOnly c P (Check.report message subject severity) := by
  intro s a ha
  rcases List.mem_append.mp ha with ha | ha
  · obtain ⟨heq, hviolation⟩ := Context.violation_of_accepted ha
    rw [heq]
    exact h _ hviolation
  · exact ReportsOnly.ofResult _ _ a ha

end ReportsOnly

end Check

end DesignLint
