import DesignLint.ConfigFile
import DesignLint.Proofs.Assistant.Layers
import DesignLint.Proofs.Json.Distinct

/-! # Configuration files that are loaded -/

namespace DesignLint

/-! ## Work -/

/-- What is remembered of files are layers. -/
def Memory.IsSound (m : Memory) : Prop := ∀ e ∈ m.cache, IsLayer e.2

namespace Work

variable {α β : Type} {x : Work α} {k : α → Work β}

theorem run_bind (x : Work α) (k : α → Work β) (m : Memory) :
    (x >>= k).run m = match x.run m with
      | (.ok a, m') => (k a).run m'
      | (.error f, m') => (.error f, m') := by
  change ((fun p : Except Fault α × Memory => ExceptT.bindCont k p.1 p.2) (x.run m)) = _
  rcases x.run m with ⟨_ | _, m'⟩ <;> rfl

theorem run_ofResult (r : Except Fault α) (m : Memory) : (ofResult r).run m = (r, m) := rfl

theorem run_ofResult_bind (r : Except Fault α) (k : α → Work β) (m : Memory) :
    ((ofResult r >>= k).run m).1 = r.bind fun a => ((k a).run m).1 := by
  cases r <;> rfl

theorem run_forM_log (l : List LogEntry) (m : Memory) :
    ∃ log, (l.forM Work.log).run m = (.ok (), { m with log }) := by
  induction l generalizing m with
  | nil => exact ⟨m.log, rfl⟩
  | cons e rest ih =>
    have hstep : (e :: rest).forM log = log e >>= fun _ => rest.forM log := rfl
    rw [hstep, run_bind]
    exact ih _

/-- Work after which all files that are remembered are layers, if they were before. -/
def Keeps (x : Work α) : Prop := ∀ m : Memory, m.IsSound → (x.run m).2.IsSound

/-- Work that takes nothing from what is remembered, and adds nothing to it but to the log. -/
def OnlyLogs (x : Work α) : Prop :=
  ∃ result, ∀ m : Memory, ∃ log, x.run m = (result, { m with log })

theorem onlyLogs_ofResult (r : Except Fault α) : (ofResult r).OnlyLogs := ⟨r, fun m => ⟨m.log, rfl⟩⟩

theorem onlyLogs_pure (a : α) : (pure a : Work α).OnlyLogs := onlyLogs_ofResult (.ok a)

theorem onlyLogs_throw (f : Fault) : (throw f : Work α).OnlyLogs := onlyLogs_ofResult (.error f)

theorem onlyLogs_log (e : LogEntry) : (log e).OnlyLogs := ⟨.ok (), fun m => ⟨m.log ++ [e], rfl⟩⟩

theorem OnlyLogs.bind (hx : x.OnlyLogs) (hk : ∀ a, (k a).OnlyLogs) : (x >>= k).OnlyLogs := by
  obtain ⟨f | a, hx⟩ := hx
  · refine ⟨.error f, fun m => ?_⟩
    obtain ⟨log, hrun⟩ := hx m
    exact ⟨log, by rw [run_bind, hrun]⟩
  · obtain ⟨result, hk⟩ := hk a
    refine ⟨result, fun m => ?_⟩
    obtain ⟨log, hrun⟩ := hx m
    obtain ⟨log', hrun'⟩ := hk { m with log }
    exact ⟨log', by rw [run_bind, hrun]; exact hrun'⟩

theorem onlyLogs_mapM {f : α → Work β} (hf : ∀ a, (f a).OnlyLogs) (l : List α) :
    (l.mapM f).OnlyLogs := by
  induction l with
  | nil => exact onlyLogs_pure []
  | cons a rest ih =>
    rw [List.mapM_cons]
    exact (hf a).bind fun b => ih.bind fun bs => onlyLogs_pure (b :: bs)

theorem onlyLogs_forM_log (l : List LogEntry) : (l.forM log).OnlyLogs :=
  ⟨.ok (), run_forM_log l⟩

theorem cache_run_bind (hk : ∀ a, (k a).OnlyLogs) (x : Work α) (m : Memory) :
    ((x >>= k).run m).2.cache = (x.run m).2.cache := by
  rw [run_bind]
  rcases x.run m with ⟨_ | a, m'⟩
  · rfl
  · obtain ⟨result, hresult⟩ := hk a
    obtain ⟨log, hrun⟩ := hresult m'
    dsimp only
    rw [hrun]

theorem run_bind_congr {x' : Work α} {m m' : Memory} (hk : ∀ a, (k a).OnlyLogs)
    (h : (x'.run m').1 = (x.run m).1) : ((x' >>= k).run m').1 = ((x >>= k).run m).1 := by
  rw [run_bind, run_bind]
  rcases hx : x.run m with ⟨r, n⟩
  rcases hx' : x'.run m' with ⟨r', n'⟩
  rw [hx, hx'] at h
  dsimp only at h
  subst h
  cases r' with
  | error f => rfl
  | ok a =>
    obtain ⟨result, hresult⟩ := hk a
    obtain ⟨log, hrun⟩ := hresult n
    obtain ⟨log', hrun'⟩ := hresult n'
    dsimp only
    rw [hrun, hrun']

theorem exists_of_run_bind {m : Memory} {b : β} (h : ((x >>= k).run m).1 = .ok b) :
    ∃ a m', (x.run m).1 = .ok a ∧ ((k a).run m').1 = .ok b := by
  rw [run_bind] at h
  rcases hx : x.run m with ⟨_ | a, m'⟩ <;> rw [hx] at h
  · cases h
  · exact ⟨a, m', rfl, h⟩

theorem forall₂_of_run_mapM {f : α → Work β} {l : List α} {bs : List β} {m : Memory}
    (h : ((l.mapM f).run m).1 = .ok bs) :
    List.Forall₂ (fun a b => ∃ m, ((f a).run m).1 = .ok b) l bs := by
  induction l generalizing bs m with
  | nil =>
    cases h
    exact .nil
  | cons a rest ih =>
    rw [List.mapM_cons] at h
    obtain ⟨b, m', hb, h⟩ := exists_of_run_bind h
    obtain ⟨others, m'', hothers, h⟩ := exists_of_run_bind h
    cases h
    exact .cons ⟨m, hb⟩ (ih hothers)

theorem exists_run_mapM {f : α → Work β} {l : List α}
    (h : ∀ a ∈ l, ∀ m, ∃ b, ((f a).run m).1 = .ok b) (m : Memory) :
    ∃ bs, ((l.mapM f).run m).1 = .ok bs := by
  induction l generalizing m with
  | nil => exact ⟨[], rfl⟩
  | cons a rest ih =>
    obtain ⟨ha, hrest⟩ := List.forall_mem_cons.mp h
    obtain ⟨b, hb⟩ := ha m
    have hrun : (f a).run m = (.ok b, ((f a).run m).2) := Prod.ext hb rfl
    obtain ⟨bs, hbs⟩ := ih hrest ((f a).run m).2
    have hruns : (rest.mapM f).run ((f a).run m).2 = (.ok bs, _) := Prod.ext hbs rfl
    refine ⟨b :: bs, ?_⟩
    rw [List.mapM_cons, run_bind, hrun]
    dsimp only
    rw [run_bind, hruns]
    rfl

end Work

/-! ## Loading -/

namespace ConfigFile

variable {files : Files} {m : Memory}

theorem parse_ascii {path text : String} {v : Json} {rules : Keyed Json}
    (htext : Json.Encoding.chars8? (text.toList.map Char.toNat) = some text.toList)
    (hread : Json.read (plainLines text.toList) = .ok v) (hrules : rulesOf? v = some rules) :
    parse path (text.toList.map Char.toNat) = .ok rules := by
  simp only [parse, htext, hread, hrules]

theorem isLayer_of_rulesOf? {v : Json} {rules : Keyed Json} (hv : v.HasDistinctKeys)
    (h : rulesOf? v = some rules) : IsLayer rules := by
  unfold rulesOf? at h
  split at h
  · rename_i given hfield
    split at h
    · rename_i hobjects
      cases h
      cases hv with
      | obj hkeys hmembers =>
        have hgiven := hmembers _ (Keyed.mem_of_get? hfield)
        cases hgiven with
        | obj hnames hvalues =>
          refine ⟨hnames, fun e he => ?_⟩
          have hobject := List.all_eq_true.mp hobjects e he
          have hdistinct := hvalues e he
          generalize e.2 = config at hobject hdistinct
          cases hdistinct with
          | obj hkeys => exact ⟨_, rfl, hkeys⟩
          | _ => cases hobject
      | _ => cases hfield
    · cases h
  · cases h

theorem isLayer_of_readFile {path : String} {rules : Keyed Json}
    (h : readFile files path = .ok rules) : IsLayer rules := by
  unfold readFile at h
  split at h
  · unfold parse at h
    split at h
    · cases h
    · split at h
      · cases h
      · cases h
      · rename_i v hread
        split at h
        · rename_i hrules
          cases h
          exact isLayer_of_rulesOf? (Json.hasDistinctKeys_of_read hread) hrules
        · cases h
  · cases h

theorem run_load (files : Files) (path : String) (m : Memory) :
    (load files path).run m =
      if Files.holdsNull path then (.error .innerNull, m)
      else match m.cache.get? (Files.resolve path) with
        | some rules => (.ok rules, m)
        | none => match readFile files path with
          | .error f => (.error f, m)
          | .ok rules => (.ok rules, ⟨m.cache.put (Files.resolve path) rules,
              m.log ++ [.configLoaded (Files.resolve path) rules.length]⟩) := by
  unfold load
  split
  · rfl
  · have hget : (get : Work Memory).run m = (.ok m, m) := rfl
    rw [Work.run_bind, hget]
    dsimp only
    cases m.cache.get? (Files.resolve path) with
    | some rules => rfl
    | none =>
      rw [Work.run_bind, Work.run_ofResult]
      cases readFile files path <;> rfl

theorem isLayer_of_load {path : String} {rules : Keyed Json} (hm : m.IsSound)
    (h : ((load files path).run m).1 = .ok rules) : IsLayer rules := by
  rw [run_load] at h
  split at h
  · cases h
  · split at h
    · rename_i hget
      cases h
      exact hm _ (Keyed.mem_of_get? hget)
    · split at h
      · cases h
      · rename_i hread
        cases h
        exact isLayer_of_readFile hread

theorem keeps_load (files : Files) (path : String) : (load files path).Keeps := by
  intro m hm
  rw [run_load]
  split
  · exact hm
  · split
    · exact hm
    · split
      · exact hm
      · rename_i hread
        intro e he
        rcases Keyed.mem_put he with rfl | he
        · exact isLayer_of_readFile hread
        · exact hm e he

end ConfigFile

end DesignLint
