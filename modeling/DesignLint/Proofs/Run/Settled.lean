import DesignLint.Proofs.Run.Invoked

/-! # Contexts that are settled -/

namespace DesignLint

/-! ## Operations on a context -/

inductive Operation
  | report (message : Json) (subject : Subject) (severity : Json)
  | option (name : String)
  | objects
  | count
  | askClosed
  | close

inductive Answer
  | reported (r : Except Fault Violation)
  | read (r : Except Fault Json)
  | objects (index : Index Layer)
  | counted (n : Nat)
  | isClosed (b : Bool)
  | done

namespace Operation

def check : Operation → Check Answer
  | report message subject severity => .reporting message subject severity fun r => .done (.reported r)
  | option name => .reading name fun r => .done (.read r)
  | objects => .inspecting fun index => .done (.objects index)
  | count => .counting fun n => .done (.counted n)
  | askClosed => .askingClosed fun b => .done (.isClosed b)
  | close => .closing (.done .done)

def checkAll : List Operation → Check (List Answer)
  | [] => .done []
  | op :: rest => op.check.andThen fun answer =>
    (checkAll rest).andThen fun answers => .done (answer :: answers)

def refusal (c : Context) (reported : Nat) : Operation → Answer
  | report _ _ _ => .reported (.error (.contextClosed c.rule))
  | option _ => .read (.error (.contextClosed c.rule))
  | objects => .objects c.index
  | count => .counted reported
  | askClosed => .isClosed true
  | close => .done

end Operation

/-! ## Closed contexts -/

theorem Session.close_of_closed {s : Session} (h : s.closed = true) : s.close = s := by
  rw [close, ← h]

namespace Context

variable {c : Context} {s : Session}

theorem report_of_closed (h : s.closed = true) (message : Json) (subject : Subject)
    (severity : Json) :
    c.report s message subject severity = (.error (.contextClosed c.rule), s) := by
  rw [report, if_pos h]

theorem option_of_closed (h : s.closed = true) (name : String) :
    c.option s name = .error (.contextClosed c.rule) := by
  rw [option, if_pos h]

theorem run_check_of_closed (h : s.closed = true) (op : Operation) :
    op.check.run c s = (.ok (op.refusal c s.reported), s) := by
  cases op with
  | report message subject severity =>
    rw [Operation.check, Check.run, report_of_closed h]
    rfl
  | option name =>
    rw [Operation.check, Check.run, option_of_closed h]
    rfl
  | objects => rfl
  | count => rfl
  | askClosed =>
    rw [Operation.check, Check.run, h]
    rfl
  | close =>
    rw [Operation.check, Check.run, Session.close_of_closed h]
    rfl

theorem run_checkAll_of_closed (h : s.closed = true) (ops : List Operation) :
    (Operation.checkAll ops).run c s = (.ok (ops.map (·.refusal c s.reported)), s) := by
  induction ops with
  | nil => rfl
  | cons op rest ih =>
    rw [Operation.checkAll, Check.run_andThen, run_check_of_closed h]
    dsimp only
    rw [Check.run_andThen, ih]
    rfl

/-- Whatever a check does in a closed context, it leaves no trace but its notes. -/
theorem run_of_closed {α : Type} (h : s.closed = true) (p : Check α) :
    ∃ notes, (p.run c s).2 = { s with notes } := by
  induction p generalizing s with
  | done a => exact ⟨s.notes, rfl⟩
  | fail f => exact ⟨s.notes, rfl⟩
  | reporting message subject severity next ih =>
    rw [Check.run, report_of_closed h]
    exact ih _ h
  | reading name next ih => exact ih _ h
  | inspecting next ih => exact ih _ h
  | counting next ih => exact ih _ h
  | askingClosed next ih => exact ih _ h
  | closing next ih =>
    rw [Check.run, Session.close_of_closed h]
    exact ih h
  | noting v next ih => exact ih (s := s.addNote v) h

/-- Whatever is stored by now, a context accepts nothing, and nothing that is done with it changes
what there is. -/
structure IsSettled (c : Context) (s : Session) : Prop where
  closed : s.closed = true
  refuses : ∀ (store : Store) (ops : List Operation),
    (Operation.checkAll ops).run c { s with store } =
      (.ok (ops.map (·.refusal c s.reported)), { s with store })
  inert : ∀ (store : Store) {α : Type} (p : Check α),
    ∃ notes, (p.run c { s with store }).2 = { s with store, notes }

theorem isSettled_of_closed (h : s.closed = true) : c.IsSettled s where
  closed := h
  refuses _ := run_checkAll_of_closed h
  inert _ := run_of_closed h

end Context

/-! ## Contexts that a run leaves -/

theorem RuleRun.exists_mem_chain {store : Store} {runs : List RuleRun} {o : RuleRun}
    (h : o ∈ runs) : ∃ earlier, o.atop earlier ∈ chain store runs := by
  induction runs generalizing store with
  | nil => cases h
  | cons p rest ih =>
    rcases List.mem_cons.mp h with rfl | h
    · exact ⟨store, List.mem_cons_self⟩
    · obtain ⟨earlier, hmem⟩ := ih h
      exact ⟨earlier, List.mem_cons_of_mem _ hmem⟩

namespace Runner

variable {r : Runner} {loaded : Except Fault Document} {rules : List Rule}
  {configs : Keyed ConfigInput} {report : RunReport}

theorem closed_of_settle {c c' : Context} {store : Store} {check : Check Unit} {s : Session}
    {error : Option RuleError} (h : settle c store check = .ok (.settled c' s error)) :
    s.closed = true := by
  unfold settle at h
  split at h
  · cases h
    rfl
  · split at h
    · cases h
    · cases h
      rfl

theorem exists_settled_of_invokes {index : Index Layer} {runs : List RuleRun} {rule : Rule}
    {config : RuleConfig} {c : Context} (hruns : rules.mapM (r.solo index configs) = .ok runs)
    (hrule : rule ∈ rules) (hc : Invokes r index configs rule config c) :
    ∃ s error, .settled c s error ∈ RuleRun.chain [] runs := by
  obtain ⟨o, ho, hsolo⟩ := Outcome.exists_mem_of_mapM hruns hrule
  rw [hc.solo_eq] at hsolo
  obtain ⟨yielded, s, -, -, rfl⟩ := settle_eq_ok hsolo
  obtain ⟨earlier, hmem⟩ := RuleRun.exists_mem_chain ho
  exact ⟨_, _, hmem⟩

/-! ## The law -/

/-- A run that returns leaves the context of each check that it invoked closed for good, whether the
check succeeded or failed. -/
theorem runLoaded_settles (h : r.runLoaded loaded rules configs = .ok report) :
    (∃ d index, loaded = .ok d ∧ Index.build (some d.pages) = .ok index ∧
      ∀ rule ∈ rules, ∀ config c, Invokes r index configs rule config c →
        ∃ s error, .settled c s error ∈ report.runs) ∧
    ∀ c s error, .settled c s error ∈ report.runs →
      (∃ rule ∈ rules, ∃ config, Invokes r c.index configs rule config c) ∧ c.IsSettled s ∧
      ∀ {α : Type} (p : Check α),
        Result.build (p.run c { s with store := report.result.violations }).2.store
          report.result.errors report.result.rulesRun = report.result := by
  refine ⟨?_, fun c s error hc => ?_⟩
  · obtain ⟨-, d, index, runs, hd, hindex, hruns, rfl⟩ := exists_report_of_runLoaded h
    exact ⟨d, index, hd, hindex, fun rule hrule config c => exists_settled_of_invokes hruns hrule⟩
  · obtain ⟨rule, hrule, config, hinvokes, store, hsettle⟩ := exists_invokes_of_settled h hc
    have hsettled := Context.isSettled_of_closed (c := c) (closed_of_settle hsettle)
    refine ⟨⟨rule, hrule, config, hinvokes⟩, hsettled, fun p => ?_⟩
    obtain ⟨notes, hp⟩ := hsettled.inert report.result.violations p
    rw [hp]
    obtain ⟨-, d, index, runs, -, -, -, rfl⟩ := exists_report_of_runLoaded h
    rfl

theorem runLoaded_settles_broken :
    ∃ report c s error, runLoaded ⟨.warn⟩ (.ok sampleDocument) [brokenRule, Ellipsis.rule]
        sampleConfigs = .ok report ∧
      .settled c s (some error) ∈ report.runs ∧ c.rule = brokenRule.name ∧
      (Operation.checkAll [.report (.str "late") sampleText.subject .null, .close, .count]).run c
          { s with store := report.result.violations } =
        (.ok [.reported (.error (.contextClosed brokenRule.name)), .done, .counted 1],
          { s with store := report.result.violations }) ∧
      report.result.violations.length = 2 := by
  have hreport : runLoaded ⟨.warn⟩ (.ok sampleDocument) [brokenRule, Ellipsis.rule]
      sampleConfigs = .ok _ := rfl
  have hsettled := ((runLoaded_settles hreport).2 _ _ _ List.mem_cons_self).2.1
  exact ⟨_, _, _, _, hreport, List.mem_cons_self, rfl, hsettled.refuses _ _, rfl⟩

end Runner

end DesignLint
