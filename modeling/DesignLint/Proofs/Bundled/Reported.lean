import DesignLint.Proofs.Bundled.Sound
import DesignLint.Proofs.Document.Indexing
import DesignLint.Proofs.Run.Findings
import DesignLint.Proofs.Run.Invoked

/-! # What the bundled rules say of each node -/

namespace DesignLint

/-- What a rule reported of the node with an id, in order. -/
def Result.saidOf (r : Result) (rule id : String) : List String :=
  ((r.violationsFor rule).filter fun v => v.nodeId = id).map (·.message)

theorem filter_flatMap_of_nodup {α β κ : Type} [DecidableEq κ] {f : α → List β} {key : β → κ}
    {name : α → κ} (hkey : ∀ a, ∀ b ∈ f a, key b = name a) {l : List α} (hl : (l.map name).Nodup)
    {a : α} (ha : a ∈ l) : ((l.flatMap f).filter fun b => key b = name a) = f a := by
  obtain ⟨before, after, rfl⟩ := List.append_of_mem ha
  rw [List.map_append, List.map_cons, List.nodup_append, List.nodup_cons] at hl
  obtain ⟨-, ⟨hafter, -⟩, hbefore⟩ := hl
  have hother : ∀ m : List α, (∀ c ∈ m, name c ≠ name a) →
      (m.flatMap f).filter (fun b => key b = name a) = [] := by
    intro m hm
    rw [List.filter_eq_nil_iff]
    intro b hb
    obtain ⟨c, hc, hbc⟩ := List.mem_flatMap.mp hb
    simpa [hkey c b hbc] using hm c hc
  have hown : (f a).filter (fun b => key b = name a) = f a := by
    rw [List.filter_eq_self]
    intro b hb
    simpa using hkey a b hb
  rw [List.flatMap_append, List.flatMap_cons, List.filter_append, List.filter_append, hown,
    hother before fun c hc => hbefore _ (List.mem_map_of_mem hc) _ List.mem_cons_self,
    hother after fun c hc heq => hafter (heq ▸ List.mem_map_of_mem hc)]
  simp

theorem Index.nodup_ids_of_build {ts : List (Tree Layer)} {x : Index Layer}
    (h : Index.build (some ts) = .ok x) (k : Kind) : ((x.nodes k).map (·.id)).Nodup := by
  have hall := (Document.nodup_ids_iff _).mpr (Index.indexable_of_build h).1.distinct
  rw [Index.nodes_of_build h]
  exact hall.sublist (List.filter_sublist.map _)

namespace Runner

variable {r : Runner} {source : Document.Source} {d : Document} {configs : Keyed ConfigInput}
  {values : OptionValues} {index : Index Layer} {config : RuleConfig} {x : Context} {c : Criterion}
  {p : c.Parameters} {verdict : c.Parameters → Layer → Except Fault (List String)}

theorem Starts.exists_invokes {rule : Rule} (r : Runner) (index : Index Layer)
    (h : Starts configs rule values) :
    ∃ config x, Invokes r index configs rule config x ∧ x.options = values := by
  obtain ⟨given, config, schema, hgiven, hconfig, hactive, hschema, hvalues⟩ := h
  exact ⟨config, contextOf r index rule config values, {
    given := ⟨given, hgiven, hconfig⟩
    active := hactive
    options := resolve_eq_ok_iff.mpr ⟨schema, hschema, hvalues⟩
    context := rfl }, rfl⟩

theorem Invokes.finds (h : Invokes r index configs c.rule config x)
    (hd : Document.load source = .ok d) (hx : Index.build (some d.pages) = .ok index)
    (hjudges : c.Judges verdict) (hp : c.Reads x.options p)
    (hok : ∀ l ∈ index.nodes c.kind, ∃ m, verdict p l = .ok m) :
    r.Finds source configs c.rule ((index.nodes c.kind).flatMap fun l =>
      (Check.said (verdict p) l).map (x.violationOf l)) [] := by
  have hid := Index.id_ne_of_build hx c.kind
  have hrun := hjudges (x := x) (s := Session.start []) rfl hp
  rw [h.index_eq] at hrun
  obtain ⟨m, hm⟩ := Outcome.exists_mapM_eq_ok_iff.mpr hok
  have hfst : ((Check.judge (verdict p) (index.nodes c.kind)).run x (Session.start [])).1 = _ :=
    Check.fst_run_judge hid rfl
  rw [hm] at hfst
  rcases hjudge : (Check.judge (verdict p) (index.nodes c.kind)).run x (Session.start [])
    with ⟨yielded, t⟩
  rw [hjudge] at hfst hrun
  obtain rfl : yielded = .ok () := hfst
  obtain ⟨-, hstore⟩ := Check.run_judge_eq_ok hid rfl hjudge
  have hsolo : r.solo index configs c.rule = .ok (.settled x t.close none) := by
    rw [h.solo_eq, settle, hrun]
  have hfinds := finds_of_solo hd hx hsolo
  have hown : (RuleRun.settled x t.close none).own = _ := hstore
  rwa [hown] at hfinds

/-- The rule alone runs without an error, and in every run it reports of each node that it looks at
what the verdict says. -/
theorem Starts.saidOf_run (r : Runner)
    (hd : Document.load source = .ok d) (hx : Index.build (some d.pages) = .ok index)
    (h : Starts configs c.rule values) (hjudges : c.Judges verdict) (hp : c.Reads values p)
    (hok : ∀ l ∈ index.nodes c.kind, ∃ m, verdict p l = .ok m) :
    (∃ report, r.run source [c.rule] configs = .ok report ∧ report.result.errors = []) ∧
    ∀ given report, c.rule ∈ given → r.run source given configs = .ok report →
      report.result.errorsFor c.rule.name = [] ∧ ∀ l ∈ index.nodes c.kind,
        report.result.saidOf c.rule.name l.id = Check.said (verdict p) l := by
  obtain ⟨config, x, hinvokes, rfl⟩ := h.exists_invokes r index
  obtain ⟨⟨report, hreport, -, hsound⟩, hamong⟩ := hinvokes.finds hd hx hjudges hp hok
  refine ⟨⟨report, hreport, hsound⟩, fun given report hrule hreport => ?_⟩
  obtain ⟨hviolations, herrors⟩ := hamong given report hrule hreport
  refine ⟨herrors, fun l hl => ?_⟩
  have hnode : ∀ a, ∀ v ∈ (Check.said (verdict p) a).map (Context.violationOf x a),
      v.nodeId = a.id := by
    intro a v hv
    obtain ⟨m, -, rfl⟩ := List.mem_map.mp hv
    rfl
  rw [Result.saidOf, hviolations,
    filter_flatMap_of_nodup hnode (Index.nodup_ids_of_build hx c.kind) hl, List.map_map]
  exact List.map_id _

end Runner

end DesignLint
