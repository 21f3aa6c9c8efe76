import DesignLint.Proofs.Run.Compose
import Mathlib.Data.List.Induction
import Mathlib.Data.List.Nodup

/-! # Registries over time -/

namespace DesignLint.Registry

variable {r : Registry} {rule : Rule} {name : String}

/-! ## One operation -/

theorem exists_register_iff : (∃ s, r.register rule = .ok s) ↔ rule.name ∉ r.names := by
  constructor
  · rintro ⟨s, hs⟩ hmem
    rw [register_of_mem hmem] at hs
    cases hs
  · exact fun h => ⟨_, register_of_notMem h⟩

theorem get?_eq_some_iff (h : r.names.Nodup) :
    r.get? name = some rule ↔ rule ∈ r.rules ∧ rule.name = name := by
  constructor
  · intro hget
    have hname := List.find?_some hget
    exact ⟨List.mem_of_find?_eq_some hget, by simpa using hname⟩
  · rintro ⟨hmem, rfl⟩
    obtain ⟨found, hfound⟩ : ∃ found, r.get? rule.name = some found := by
      rw [← Option.isSome_iff_exists, get?, List.find?_isSome]
      exact ⟨rule, hmem, by simp⟩
    have hname : found.name = rule.name := by simpa using List.find?_some hfound
    rw [hfound, List.inj_on_of_nodup_map h (List.mem_of_find?_eq_some hfound) hmem hname]

theorem names_unregister (r : Registry) (name : String) :
    (r.unregister name).2.names = r.names.filter (· ≠ name) := by
  rw [names, names, unregister, List.filter_map]
  rfl

theorem names_unregister_of_nodup (h : r.names.Nodup) (name : String) :
    (r.unregister name).2.names = r.names.erase name := by
  rw [names_unregister, h.erase_eq_filter]
  exact List.filter_congr fun other _ => by rw [Bool.eq_iff_iff]; simp

theorem get?_unregister_of_ne {other : String} (h : other ≠ name) :
    (r.unregister name).2.get? other = r.get? other := by
  rw [get?, get?, unregister, List.find?_filter]
  refine congrArg (List.find? · r.rules) (funext fun rule => ?_)
  by_cases hrule : rule.name = other
  · simp [hrule, h]
  · simp [hrule]

/-! ## Changes -/

inductive Change
  | register (rule : Rule)
  | unregister (name : String)

def after (r : Registry) : Change → Registry
  | .register rule => (r.register rule).toOption.getD r
  | .unregister name => (r.unregister name).2

def afterAll (r : Registry) (changes : List Change) : Registry := changes.foldl after r

theorem after_register_of_mem (h : rule.name ∈ r.names) : r.after (.register rule) = r := by
  rw [after, register_of_mem h]
  rfl

theorem after_register_of_notMem (h : rule.name ∉ r.names) :
    r.after (.register rule) = ⟨r.rules ++ [rule]⟩ := by
  rw [after, register_of_notMem h]
  rfl

theorem afterAll_append (r : Registry) (first second : List Change) :
    r.afterAll (first ++ second) = (r.afterAll first).afterAll second := List.foldl_append

theorem afterAll_concat (r : Registry) (changes : List Change) (change : Change) :
    r.afterAll (changes ++ [change]) = (r.afterAll changes).after change := by
  rw [afterAll_append]
  rfl

theorem nodup_names_after (h : r.names.Nodup) (change : Change) : (r.after change).names.Nodup := by
  cases change with
  | register rule =>
    by_cases htaken : rule.name ∈ r.names
    · rwa [after_register_of_mem htaken]
    · rw [after_register_of_notMem htaken, names, List.map_append, List.map_singleton,
        List.nodup_append_comm]
      exact List.nodup_cons.mpr ⟨htaken, h⟩
  | unregister name =>
    rw [after, names_unregister]
    exact h.filter _

theorem nodup_names_afterAll (h : r.names.Nodup) (changes : List Change) :
    (r.afterAll changes).names.Nodup := by
  induction changes generalizing r with
  | nil => exact h
  | cons change rest ih => exact ih (nodup_names_after h change)

theorem afterAll_register_of_foldlM {rules : List Rule} {s : Registry}
    (h : rules.foldlM register r = .ok s) : r.afterAll (rules.map .register) = s := by
  induction rules generalizing r with
  | nil =>
    cases h
    rfl
  | cons rule rest ih =>
    rw [List.foldlM_cons] at h
    obtain ⟨next, hnext, h⟩ := Outcome.bind_eq_ok_iff.mp h
    have hstep : r.after (.register rule) = next := by
      rw [after, hnext]
      rfl
    rw [List.map_cons, afterAll, List.foldl_cons, hstep]
    exact ih h

/-! ## Who stands where -/

/-- At the place `i` of a history that begins with nothing, a rule is registered with success. -/
def Registers (history : List Change) (i : Nat) (rule : Rule) : Prop :=
  history[i]? = some (.register rule) ∧
    ∃ s, (empty.afterAll (history.take i)).register rule = .ok s

/-- A rule is registered with success at the place `i` of a history and not unregistered since. -/
structure Stands (history : List Change) (i : Nat) (rule : Rule) : Prop where
  registers : Registers history i rule
  kept : ∀ j, i < j → history[j]? ≠ some (.unregister rule.name)

variable {history : List Change} {i j : Nat} {change : Change}

theorem lt_of_registers (h : Registers history i rule) : i < history.length :=
  (List.getElem?_eq_some_iff.mp h.1).1

theorem registers_concat_iff : Registers (history ++ [change]) i rule ↔
    Registers history i rule ∨
      i = history.length ∧ change = .register rule ∧ rule.name ∉ (empty.afterAll history).names := by
  rcases Nat.lt_trichotomy i history.length with hlt | rfl | hgt
  · have hne : i ≠ history.length := Nat.ne_of_lt hlt
    rw [Registers, Registers, List.getElem?_append_left hlt,
      List.take_append_of_le_length (Nat.le_of_lt hlt)]
    simp [hne]
  · have hold : ¬ Registers history history.length rule :=
      fun h => Nat.lt_irrefl _ (lt_of_registers h)
    rw [Registers, List.getElem?_concat_length, List.take_left, exists_register_iff]
    simp [hold]
  · have hold : ¬ Registers history i rule := fun h => Nat.lt_asymm hgt (lt_of_registers h)
    have hnew : ¬ Registers (history ++ [change]) i rule := by
      intro h
      have hlt := lt_of_registers h
      rw [List.length_append, List.length_singleton] at hlt
      omega
    simp [hold, hnew, Nat.ne_of_gt hgt]

theorem stands_concat_iff : Stands (history ++ [change]) i rule ↔
    Stands history i rule ∧ change ≠ .unregister rule.name ∨
      i = history.length ∧ change = .register rule ∧ rule.name ∉ (empty.afterAll history).names := by
  constructor
  · rintro ⟨hregisters, hkept⟩
    rcases registers_concat_iff.mp hregisters with hold | hnew
    · refine .inl ⟨⟨hold, fun j hj hat => ?_⟩, ?_⟩
      · refine hkept j hj ?_
        rw [List.getElem?_append_left (List.getElem?_eq_some_iff.mp hat).1, hat]
      · rintro rfl
        exact hkept history.length (lt_of_registers hold) List.getElem?_concat_length
    · exact .inr hnew
  · rintro (⟨⟨hregisters, hkept⟩, hchange⟩ | hnew)
    · refine ⟨registers_concat_iff.mpr (.inl hregisters), fun j hj hat => ?_⟩
      rcases Nat.lt_or_ge j history.length with hlt | hge
      · exact hkept j hj ((List.getElem?_append_left hlt).symm.trans hat)
      · rw [List.getElem?_append_right hge, List.getElem?_singleton] at hat
        split at hat
        · exact hchange (Option.some.inj hat)
        · cases hat
    · refine ⟨registers_concat_iff.mpr (.inr hnew), fun j hj hat => ?_⟩
      have hlt := (List.getElem?_eq_some_iff.mp hat).1
      rw [List.length_append, List.length_singleton] at hlt
      omega

/-- Entries that give the rules of a registry in order, each with the place of a history where it
was registered. They are all that stand, and the places ascend. -/
structure Dates (history : List Change) (s : Registry) (entries : List (Nat × Rule)) : Prop where
  rules : entries.map (·.2) = s.rules
  sorted : entries.Pairwise fun d e => d.1 < e.1
  mem_iff : ∀ i rule, (i, rule) ∈ entries ↔ Stands history i rule

namespace Dates

variable {entries : List (Nat × Rule)}

theorem register_of_mem (h : Dates history (empty.afterAll history) entries)
    (htaken : rule.name ∈ (empty.afterAll history).names) :
    Dates (history ++ [.register rule]) ((empty.afterAll history).after (.register rule))
      entries := by
  rw [after_register_of_mem htaken]
  refine ⟨h.rules, h.sorted, fun i other => ?_⟩
  rw [h.mem_iff, stands_concat_iff]
  constructor
  · exact fun hold => .inl ⟨hold, by simp⟩
  · rintro (⟨hold, -⟩ | ⟨-, ⟨⟩, hnew⟩)
    · exact hold
    · exact absurd htaken hnew

theorem register_of_notMem (h : Dates history (empty.afterAll history) entries)
    (hnew : rule.name ∉ (empty.afterAll history).names) :
    Dates (history ++ [.register rule]) ((empty.afterAll history).after (.register rule))
      (entries ++ [(history.length, rule)]) := by
  rw [after_register_of_notMem hnew]
  refine ⟨?_, ?_, fun i other => ?_⟩
  · rw [List.map_append, h.rules]
    rfl
  · refine List.pairwise_append.mpr ⟨h.sorted, List.pairwise_singleton _ _, ?_⟩
    rintro ⟨i, other⟩ hentry _ hlast
    rw [List.mem_singleton.mp hlast]
    exact lt_of_registers ((h.mem_iff i other).mp hentry).registers
  · rw [List.mem_append, h.mem_iff, stands_concat_iff, List.mem_singleton, Prod.mk.injEq]
    constructor
    · rintro (hold | ⟨rfl, rfl⟩)
      · exact .inl ⟨hold, by simp⟩
      · exact .inr ⟨rfl, rfl, hnew⟩
    · rintro (⟨hold, -⟩ | ⟨rfl, ⟨⟩, -⟩)
      · exact .inl hold
      · exact .inr ⟨rfl, rfl⟩

theorem unregister (h : Dates history (empty.afterAll history) entries) (name : String) :
    Dates (history ++ [.unregister name]) ((empty.afterAll history).after (.unregister name))
      (entries.filter (·.2.name ≠ name)) := by
  refine ⟨?_, h.sorted.filter _, fun i other => ?_⟩
  · rw [after, Registry.unregister, ← h.rules, List.filter_map]
    rfl
  · have hchange : Change.unregister name ≠ .unregister other.name ↔ other.name ≠ name := by
      rw [ne_eq, Change.unregister.injEq, eq_comm]
    rw [List.mem_filter, h.mem_iff, stands_concat_iff, hchange]
    simp

end Dates

/-- The rules are those that stand, in the order of the places where they were registered. -/
theorem exists_dates (history : List Change) :
    ∃ entries, Dates history (empty.afterAll history) entries := by
  induction history using List.reverseRecOn with
  | nil =>
    refine ⟨[], rfl, .nil, fun i rule => ?_⟩
    simp only [List.not_mem_nil, false_iff]
    exact fun h => Nat.not_lt_zero i (lt_of_registers h.registers)
  | append_singleton history change ih =>
    obtain ⟨entries, hentries⟩ := ih
    rw [afterAll_concat]
    cases change with
    | register rule =>
      by_cases htaken : rule.name ∈ (empty.afterAll history).names
      · exact ⟨_, hentries.register_of_mem htaken⟩
      · exact ⟨_, hentries.register_of_notMem htaken⟩
    | unregister name => exact ⟨_, hentries.unregister name⟩

theorem mem_names_of_stands (h : Stands history i rule) :
    rule.name ∈ (empty.afterAll history).names := by
  obtain ⟨entries, hentries⟩ := exists_dates history
  rw [names, ← hentries.rules]
  exact List.mem_map_of_mem (List.mem_map_of_mem ((hentries.mem_iff i rule).mpr h))

theorem stands_take (h : Stands history i rule) (hj : i < j) : Stands (history.take j) i rule := by
  obtain ⟨⟨hat, hfree⟩, hkept⟩ := h
  refine ⟨⟨?_, ?_⟩, fun k hk hgone => ?_⟩
  · rwa [List.getElem?_take_of_lt hj]
  · rwa [List.take_take, Nat.min_eq_left (Nat.le_of_lt hj)]
  · obtain ⟨hlt, -⟩ := List.getElem?_eq_some_iff.mp hgone
    rw [List.length_take] at hlt
    rw [List.getElem?_take_of_lt (by omega)] at hgone
    exact hkept k hk hgone

theorem le_of_stands {other : Rule} (h : Stands history i rule) (hother : Registers history j other)
    (hname : other.name = rule.name) : j ≤ i := by
  refine Nat.le_of_not_lt fun hlt => ?_
  have htaken := mem_names_of_stands (stands_take h hlt)
  exact exists_register_iff.mp hother.2 (hname ▸ htaken)

/-! ## Going through a registry -/

/-- Someone goes through a registry. What is ahead was taken from it at the start. -/
structure Tour where
  registry : Registry
  met : List Rule
  ahead : List Rule

def tour (r : Registry) : Tour := ⟨r, [], r.rules⟩

namespace Tour

inductive Event
  | next
  | meanwhile (change : Change)

def Event.isNext : Event → Bool
  | .next => true
  | .meanwhile _ => false

def Event.change? : Event → Option Change
  | .next => none
  | .meanwhile change => some change

def after (t : Tour) : Event → Tour
  | .next => { t with met := t.met ++ t.ahead.take 1, ahead := t.ahead.drop 1 }
  | .meanwhile change => { t with registry := t.registry.after change }

def afterAll (t : Tour) (events : List Event) : Tour := events.foldl after t

theorem afterAll_eq (t : Tour) (events : List Event) :
    t.afterAll events =
      ⟨t.registry.afterAll (events.filterMap Event.change?),
        t.met ++ t.ahead.take (events.countP Event.isNext),
        t.ahead.drop (events.countP Event.isNext)⟩ := by
  induction events generalizing t with
  | nil => simp [afterAll, Registry.afterAll]
  | cons event rest ih =>
    rw [afterAll, List.foldl_cons, ← afterAll, ih]
    cases event with
    | next =>
      rw [List.countP_cons_of_pos rfl, List.filterMap_cons_none rfl, Nat.add_comm, List.take_add,
        ← List.append_assoc, ← List.drop_drop]
      rfl
    | meanwhile change =>
      rw [List.countP_cons_of_neg (by simp [Event.isNext])]
      rfl

end Tour

def drainEvents (r : Registry) : List Tour.Event :=
  r.rules.flatMap fun rule => [.next, .meanwhile (.unregister rule.name)]

theorem drain_eq (r : Registry) :
    r.drain = ((r.tour.afterAll r.drainEvents).met.map (·.name),
      (r.tour.afterAll r.drainEvents).registry) := by
  have hnext : r.drainEvents.countP Tour.Event.isNext = r.rules.length := by
    have hone : ∀ rule : Rule, List.countP Tour.Event.isNext
        [.next, .meanwhile (.unregister rule.name)] = 1 := fun _ => rfl
    simp [drainEvents, List.countP_flatMap, Function.comp_def, hone]
  have hchanges : r.drainEvents.filterMap Tour.Event.change? =
      r.rules.map fun rule => .unregister rule.name := by
    have hone : ∀ rule : Rule, List.filterMap Tour.Event.change?
        [.next, .meanwhile (.unregister rule.name)] = [.unregister rule.name] := fun _ => rfl
    rw [drainEvents, List.filterMap_flatMap, List.map_eq_flatMap]
    exact congrArg (List.flatMap · r.rules) (funext hone)
  rw [Tour.afterAll_eq, hnext, hchanges, drain, tour, List.take_length, names, List.foldl_map,
    afterAll, List.foldl_map]
  rfl

theorem rules_foldl_unregister (gone : List String) (r : Registry) :
    (gone.foldl (fun s name => (s.unregister name).2) r).rules =
      r.rules.filter fun rule => !gone.contains rule.name := by
  induction gone generalizing r with
  | nil => simp
  | cons name rest ih =>
    rw [List.foldl_cons, ih, unregister, List.filter_filter]
    refine List.filter_congr fun rule _ => ?_
    simp [Bool.and_comm]

theorem rules_drain (r : Registry) : r.drain.2.rules = [] := by
  rw [drain, rules_foldl_unregister, List.filter_eq_nil_iff]
  intro rule hrule
  have hmem : rule.name ∈ r.names := List.mem_map_of_mem hrule
  simpa using hmem

/-! ## Rules with one name -/

theorem ofList_eq_error {rules : List Rule} (h : ¬ (rules.map (·.name)).Nodup) :
    ∃ before rule rest, rules = before ++ rule :: rest ∧ (before.map (·.name)).Nodup ∧
      rule.name ∈ before.map (·.name) ∧ ofList rules = .error (.duplicateRule rule.name) := by
  induction rules using List.reverseRecOn with
  | nil => exact absurd List.nodup_nil h
  | append_singleton rules last ih =>
    by_cases hrules : (rules.map (·.name)).Nodup
    · -- All but the last have distinct names, so that they are registered before it is refused.
      have htaken : last.name ∈ rules.map (·.name) := by
        by_contra hnew
        refine h ?_
        rw [List.map_append, List.map_singleton, List.nodup_append_comm]
        exact List.nodup_cons.mpr ⟨hnew, hrules⟩
      have hbefore : rules.foldlM register empty = .ok ⟨rules⟩ :=
        (ofList_eq_ok_iff rules ⟨rules⟩).mpr ⟨rfl, hrules⟩
      refine ⟨rules, last, [], rfl, hrules, htaken, ?_⟩
      rw [ofList, List.foldlM_append, hbefore]
      exact congrArg (· >>= pure) (register_of_mem htaken)
    · obtain ⟨before, rule, rest, rfl, hbefore, htaken, herror⟩ := ih hrules
      refine ⟨before, rule, rest ++ [last], by simp, hbefore, htaken, ?_⟩
      rw [ofList] at herror
      rw [ofList, List.foldlM_append, herror]
      rfl

/-! ## The law -/

/-- What a registry is after a history that begins with nothing. -/
structure Keeps (history : List Change) (s : Registry) : Prop where
  distinct : s.names.Nodup
  order : ∃ entries, Dates history s entries
  /-- Of the registrations of a name, the one that stands is the last that succeeded. -/
  last : ∀ i rule, Stands history i rule →
    ∀ j other, Registers history j other → other.name = rule.name → j ≤ i
  size : s.size = s.names.length
  member : ∀ name, s.contains name = true ↔ name ∈ s.names
  found : ∀ name rule, s.get? name = some rule ↔ rule ∈ s.rules ∧ rule.name = name
  taken : ∀ rule, rule.name ∈ s.names →
    s.register rule = .error (.duplicateRule rule.name) ∧ s.after (.register rule) = s
  new : ∀ rule, rule.name ∉ s.names → s.register rule = .ok ⟨s.rules ++ [rule]⟩
  removed : ∀ name, ((s.unregister name).1 = true ↔ name ∈ s.names) ∧
    (s.unregister name).2.names = s.names.erase name ∧
    ∀ other, other ≠ name → (s.unregister name).2.get? other = s.get? other
  /-- Whoever goes through the registry meets its rules one by one, whatever is done meanwhile. -/
  toured : ∀ events : List Tour.Event,
    (s.tour.afterAll events).met = s.rules.take (events.countP Tour.Event.isNext) ∧
    (s.tour.afterAll events).registry = s.afterAll (events.filterMap Tour.Event.change?)
  drained : s.drain.1 = s.names ∧ s.drain.2.rules = [] ∧
    s.drain = ((s.tour.afterAll s.drainEvents).met.map (·.name),
      (s.tour.afterAll s.drainEvents).registry)

theorem keeps_afterAll (history : List Change) : Keeps history (empty.afterAll history) := by
  have hempty : empty.names.Nodup := List.nodup_nil
  have hdistinct := nodup_names_afterAll hempty history
  exact {
    distinct := hdistinct
    order := exists_dates history
    last := fun _ _ hstands _ _ hregisters hname => le_of_stands hstands hregisters hname
    size := (List.length_map _).symm
    member := fun _ => contains_iff
    found := fun _ _ => get?_eq_some_iff hdistinct
    taken := fun _ htaken => ⟨register_of_mem htaken, after_register_of_mem htaken⟩
    new := fun _ hnew => register_of_notMem hnew
    removed := fun name => ⟨contains_iff, names_unregister_of_nodup hdistinct name,
      fun _ hne => get?_unregister_of_ne hne⟩
    toured := fun events => by
      rw [Tour.afterAll_eq]
      exact ⟨List.nil_append _, rfl⟩
    drained := ⟨rfl, rules_drain _, drain_eq _⟩ }

/-- From rules with distinct names a registry is built that keeps what is registered. Rules of which
some share a name are refused. -/
theorem keeps_registrations (rules : List Rule) :
    ((rules.map (·.name)).Nodup → ∃ r, ofList rules = .ok r ∧
      ∀ changes, Keeps (rules.map .register ++ changes) (r.afterAll changes)) ∧
    (¬ (rules.map (·.name)).Nodup → ∃ before rule rest, rules = before ++ rule :: rest ∧
      (before.map (·.name)).Nodup ∧ rule.name ∈ before.map (·.name) ∧
      ofList rules = .error (.duplicateRule rule.name)) := by
  refine ⟨fun hdistinct => ?_, ofList_eq_error⟩
  have hbuilt : ofList rules = .ok ⟨rules⟩ := (ofList_eq_ok_iff rules _).mpr ⟨rfl, hdistinct⟩
  refine ⟨⟨rules⟩, hbuilt, fun changes => ?_⟩
  rw [← afterAll_register_of_foldlM hbuilt, ← afterAll_append]
  exact keeps_afterAll _

def plainRule (name : String) : Rule := ⟨"Rule", name, .fixed name, .fixed "", [], pure ()⟩

theorem keeps_registrations_again :
    ∃ r s, ofList [plainRule "b", plainRule "a"] = .ok r ∧
      s = r.afterAll [.register (plainRule "b"), .unregister "b", .register (plainRule "b")] ∧
      s.names = ["a", "b"] ∧ s.register (plainRule "b") = .error (.duplicateRule "b") ∧
      (s.tour.afterAll [.next, .meanwhile (.unregister "b"), .next]).met = s.rules ∧
      ∃ name, ofList [plainRule "b", plainRule "a", plainRule "b"] =
        .error (.duplicateRule name) := by
  obtain ⟨r, hr, hkeeps⟩ := (keeps_registrations [plainRule "b", plainRule "a"]).1 (by decide)
  obtain ⟨rfl, -⟩ := (ofList_eq_ok_iff _ r).mp hr
  have hlaw := hkeeps [.register (plainRule "b"), .unregister "b", .register (plainRule "b")]
  refine ⟨_, _, hr, rfl, rfl, (hlaw.taken (plainRule "b") (by decide)).1, (hlaw.toured _).1, ?_⟩
  obtain ⟨-, rule, -, -, -, -, herror⟩ :=
    (keeps_registrations [plainRule "b", plainRule "a", plainRule "b"]).2 (by decide)
  exact ⟨rule.name, herror⟩

end DesignLint.Registry
