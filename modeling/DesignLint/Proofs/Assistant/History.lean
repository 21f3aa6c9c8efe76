import DesignLint.Proofs.Assistant.FileLayer
import DesignLint.Proofs.Assistant.Resolve
import Mathlib.Data.List.Induction

/-!
# Configuration files over time

The file layer is that of the file as it was when it was first loaded since memory was last cleared.
A file that could not be loaded is looked at again.
-/

namespace DesignLint

namespace Engine

/-! ## Histories -/

/-- What an engine finds: the files that are there, and what is remembered. -/
structure World where
  files : Files
  memory : Memory

inductive Event
  | write (path : String) (bytes : List Nat)
  | clear
  | resolve (overrides : Json)
  | run (document : Except Document.Source Document) (overrides : Json)
  | describe (overrides : Json)

namespace Event

/-- Whether an event comes to the file layer. A run does so once the names of the rules are found to
be distinct. -/
def Loads (e : Engine) : Event → Prop
  | write _ _ => False
  | clear => False
  | resolve _ => True
  | run _ _ => ∃ registry, e.assistant.registry = .ok registry
  | describe _ => True

end Event

namespace World

def after (e : Engine) (w : World) : Event → World
  | .write path bytes => match w.files.write path bytes with
    | .ok files => { w with files }
    | .error _ => w
  | .clear => { w with memory := { w.memory with cache := [] } }
  | .resolve overrides => { w with memory := ((e.resolve w.files overrides).run w.memory).2 }
  | .run document overrides =>
    { w with memory := ((e.run w.files document overrides).run w.memory).2 }
  | .describe overrides => { w with memory := ((e.describe w.files overrides).run w.memory).2 }

def afterAll (e : Engine) (w : World) (events : List Event) : World := events.foldl (after e) w

def fileLayer (e : Engine) (w : World) : Except Fault (Keyed Json) :=
  ((e.fileLayer w.files).run w.memory).1

/-- An engine does the same in both worlds. -/
structure Alike (e : Engine) (w w' : World) : Prop where
  resolve : ∀ overrides, ((e.resolve w'.files overrides).run w'.memory).1 =
    ((e.resolve w.files overrides).run w.memory).1
  run : ∀ document overrides, ((e.run w'.files document overrides).run w'.memory).1 =
    ((e.run w.files document overrides).run w.memory).1
  describe : ∀ overrides, ((e.describe w'.files overrides).run w'.memory).1 =
    ((e.describe w.files overrides).run w.memory).1

variable {e : Engine} {w w' : World} {event : Event} {events : List Event} {rules : Keyed Json}
  {path : String}

theorem alike_of_fileLayer (h : w'.fileLayer e = w.fileLayer e) : Alike e w w' where
  resolve := resolve_congr h
  run := run_congr h
  describe := describe_congr h

/-! ## One event -/

theorem cache_after_of_loads (h : event.Loads e) (w : World) :
    (w.after e event).memory.cache = ((e.fileLayer w.files).run w.memory).2.cache := by
  cases event with
  | write path bytes => cases h
  | clear => cases h
  | resolve overrides => exact e.cache_resolve w.files overrides w.memory
  | run document overrides =>
    obtain ⟨registry, hregistry⟩ := h
    exact cache_run hregistry w.files document overrides w.memory
  | describe overrides => exact e.cache_describe w.files overrides w.memory

theorem memory_after_of_not_loads (h : ¬ event.Loads e) (hclear : event ≠ .clear) (w : World) :
    (w.after e event).memory = w.memory := by
  cases event with
  | write path bytes =>
    rw [after]
    split <;> rfl
  | clear => exact absurd rfl hclear
  | resolve overrides => exact absurd trivial h
  | run document overrides =>
    cases hregistry : e.assistant.registry with
    | error f => rw [after, run_of_registry_error hregistry]
    | ok registry => exact absurd ⟨registry, hregistry⟩ h
  | describe overrides => exact absurd trivial h

theorem get?_cache_after (hclear : event ≠ .clear) (h : w.memory.cache.get? path = some rules) :
    (w.after e event).memory.cache.get? path = some rules := by
  by_cases hloads : event.Loads e
  · rw [cache_after_of_loads hloads]
    exact get?_cache_fileLayer h w.files
  · rwa [memory_after_of_not_loads hloads hclear]

theorem cache_after_of_error {f : Fault} (h : w.fileLayer e = .error f) (hclear : event ≠ .clear) :
    (w.after e event).memory.cache = w.memory.cache := by
  by_cases hloads : event.Loads e
  · rw [cache_after_of_loads hloads, run_fileLayer_of_error h]
  · rw [memory_after_of_not_loads hloads hclear]

/-! ## All events -/

theorem afterAll_append (w : World) (first second : List Event) :
    w.afterAll e (first ++ second) = (w.afterAll e first).afterAll e second := List.foldl_append

theorem afterAll_concat (w : World) (events : List Event) (event : Event) :
    w.afterAll e (events ++ [event]) = (w.afterAll e events).after e event := afterAll_append w _ _

theorem get?_cache_afterAll (hclear : .clear ∉ events)
    (h : w.memory.cache.get? path = some rules) :
    (w.afterAll e events).memory.cache.get? path = some rules := by
  induction events generalizing w with
  | nil => exact h
  | cons event rest ih =>
    obtain ⟨hfirst, hrest⟩ := not_or.mp (mt List.mem_cons.mpr hclear)
    exact ih hrest (get?_cache_after (Ne.symm hfirst) h)

end World

/-! ## Loads -/

structure LoadsAt (e : Engine) (w : World) (before : List Event) (event : Event) : Prop where
  loads : event.Loads e
  succeeds : ∃ rules, (w.afterAll e before).fileLayer e = .ok rules

/-- No event loaded the file since it was last forgotten. -/
def Unloaded (e : Engine) (w : World) (events : List Event) : Prop :=
  ∀ before event since, events = before ++ event :: since → .clear ∉ since →
    ¬ LoadsAt e w before event

/-- The event after `before` was the first to load the file since it was last forgotten. -/
def FirstLoad (e : Engine) (w : World) (events before : List Event) : Prop :=
  ∃ event since, events = before ++ event :: since ∧ .clear ∉ since ∧ LoadsAt e w before event ∧
    Unloaded e w before

section

variable {e : Engine} {w : World} {event : Event} {events before later : List Event}
  {rules : Keyed Json}

theorem concat_eq_append_cons {α : Type} {l before since : List α} {a b : α}
    (h : l ++ [a] = before ++ b :: since) :
    (since = [] ∧ l = before ∧ a = b) ∨ ∃ rest, since = rest ++ [a] ∧ l = before ++ b :: rest := by
  rcases List.eq_nil_or_concat' since with rfl | ⟨rest, c, rfl⟩
  · obtain ⟨hl, hab⟩ := List.append_inj' h rfl
    exact .inl ⟨rfl, hl, List.singleton_inj.mp hab⟩
  · have h' : l ++ [a] = (before ++ b :: rest) ++ [c] := by simpa using h
    obtain ⟨hl, hac⟩ := List.append_inj' h' rfl
    exact .inr ⟨rest, by rw [List.singleton_inj.mp hac], hl⟩

theorem unloaded_nil : Unloaded e w [] := by
  intro before event since h
  cases before <;> cases h

theorem unloaded_concat_clear : Unloaded e w (events ++ [.clear]) := by
  intro before event since h hsince hloads
  rcases concat_eq_append_cons h with ⟨-, -, rfl⟩ | ⟨rest, rfl, -⟩
  · exact hloads.loads
  · exact hsince (List.mem_append_right rest List.mem_cons_self)

theorem Unloaded.concat (h : Unloaded e w events) (hevent : ¬ LoadsAt e w events event) :
    Unloaded e w (events ++ [event]) := by
  intro before other since hsplit hsince
  rcases concat_eq_append_cons hsplit with ⟨-, rfl, rfl⟩ | ⟨rest, rfl, hevents⟩
  · exact hevent
  · exact h before other rest hevents fun hmem => hsince (List.mem_append_left _ hmem)

theorem Unloaded.of_concat (h : Unloaded e w (events ++ [event])) (hclear : event ≠ .clear) :
    Unloaded e w events := by
  intro before other since hsplit hsince
  refine h before other (since ++ [event]) (by rw [hsplit, List.append_assoc]; rfl) ?_
  simpa [hsince] using Ne.symm hclear

theorem Unloaded.append (h : Unloaded e w events) (hlater : ∀ event ∈ later, ¬ event.Loads e) :
    Unloaded e w (events ++ later) := by
  induction later generalizing events with
  | nil => rwa [List.append_nil]
  | cons event rest ih =>
    obtain ⟨hevent, hrest⟩ := List.forall_mem_cons.mp hlater
    rw [List.append_cons]
    exact ih (h.concat fun hloads => hevent hloads.loads) hrest

theorem FirstLoad.append (h : FirstLoad e w events before) (hlater : .clear ∉ later) :
    FirstLoad e w (events ++ later) before := by
  obtain ⟨event, since, rfl, hsince, hloads, hbefore⟩ := h
  refine ⟨event, since ++ later, by rw [List.append_assoc]; rfl, ?_, hloads, hbefore⟩
  exact fun hmem => (List.mem_append.mp hmem).elim hsince hlater

theorem unloaded_or_firstLoad (e : Engine) (w : World) (events : List Event) :
    Unloaded e w events ∨ ∃ before, FirstLoad e w events before := by
  induction events using List.reverseRecOn with
  | nil => exact .inl unloaded_nil
  | append_singleton events event ih =>
    by_cases hclear : event = .clear
    · subst hclear
      exact .inl unloaded_concat_clear
    · rcases ih with hunloaded | ⟨before, hfirst⟩
      · by_cases hloads : LoadsAt e w events event
        · exact .inr ⟨events, event, [], rfl, List.not_mem_nil, hloads, hunloaded⟩
        · exact .inl (hunloaded.concat hloads)
      · exact .inr ⟨before, hfirst.append (by simpa using Ne.symm hclear)⟩

/-! ## What is remembered -/

theorem remembered?_of_unloaded (hstart : e.remembered? w.memory = none)
    (h : Unloaded e w events) : e.remembered? (w.afterAll e events).memory = none := by
  induction events using List.reverseRecOn with
  | nil => exact hstart
  | append_singleton events event ih =>
    rw [World.afterAll_concat]
    by_cases hclear : event = .clear
    · subst hclear
      rfl
    · have hnone := ih (h.of_concat hclear)
      have hnot : ¬ LoadsAt e w events event := h events event [] rfl List.not_mem_nil
      by_cases hloads : event.Loads e
      · -- The event came to the file layer, so loading failed.
        cases hlayer : (w.afterAll e events).fileLayer e with
        | ok rules => exact absurd ⟨hloads, rules, hlayer⟩ hnot
        | error f => rwa [remembered?, World.cache_after_of_error hlayer hclear]
      · rwa [World.memory_after_of_not_loads hloads hclear]

theorem exists_of_readAnew {files : Files} (h : e.readAnew files = .ok rules) :
    ∃ bytes, files.read (Files.steps e.configPath) = .ok bytes ∧
      ConfigFile.parse e.configPath bytes = .ok rules := by
  unfold readAnew at h
  split at h
  · cases h
  · unfold ConfigFile.readFile at h
    split at h
    · rename_i bytes hread
      exact ⟨bytes, hread, h⟩
    · cases h

theorem exists_remembered?_of_firstLoad (hpath : e.configPath ≠ "")
    (hstart : e.remembered? w.memory = none) (h : FirstLoad e w events before) :
    ∃ rules, e.readAnew (w.afterAll e before).files = .ok rules ∧
      Files.holdsNull e.configPath = false ∧
      e.remembered? (w.afterAll e events).memory = some rules := by
  obtain ⟨event, since, rfl, hsince, ⟨hloads, rules, hlayer⟩, hbefore⟩ := h
  have hforgotten := remembered?_of_unloaded hstart hbefore
  have hread := (fileLayer_of_forgotten hpath hforgotten).symm.trans hlayer
  obtain ⟨hnull, hremembered⟩ := remembered?_of_fileLayer hpath hlayer
  refine ⟨rules, hread, hnull, ?_⟩
  rw [remembered?, ← World.cache_after_of_loads hloads] at hremembered
  rw [List.append_cons, World.afterAll_append, World.afterAll_concat]
  exact World.get?_cache_afterAll hsince hremembered

theorem unloaded_of_error {f : Fault} (hpath : e.configPath ≠ "")
    (hstart : e.remembered? w.memory = none)
    (h : (w.afterAll e events).fileLayer e = .error f) : Unloaded e w events := by
  rcases unloaded_or_firstLoad e w events with hunloaded | ⟨before, hfirst⟩
  · exact hunloaded
  · obtain ⟨rules, -, hnull, hremembered⟩ := exists_remembered?_of_firstLoad hpath hstart hfirst
    cases h.symm.trans (fileLayer_of_remembered hpath hnull hremembered)

end

/-! ## The law -/

/-- What becomes of the file layer over a history. -/
structure Remembers (e : Engine) (w : World) (events : List Event) : Prop where
  loaded : Unloaded e w events ∨ ∃ before, FirstLoad e w events before
  anew : Unloaded e w events →
    (w.afterAll e events).fileLayer e = e.readAnew (w.afterAll e events).files
  pinned : ∀ before, FirstLoad e w events before → ∃ bytes rules,
    (w.afterAll e before).files.read (Files.steps e.configPath) = .ok bytes ∧
    ConfigFile.parse e.configPath bytes = .ok rules ∧
    ∀ later, .clear ∉ later → (w.afterAll e (events ++ later)).fileLayer e = .ok rules ∧
      World.Alike e (w.afterAll e events) (w.afterAll e (events ++ later))
  /-- A file that cannot be loaded leaves no trace, and is read again the next time. -/
  failed : ∀ event f, event.Loads e → (w.afterAll e events).fileLayer e = .error f →
    (w.afterAll e (events ++ [event])).memory.cache = (w.afterAll e events).memory.cache ∧
    ∀ later, (∀ t ∈ later, ¬ t.Loads e) →
      (w.afterAll e (events ++ event :: later)).fileLayer e =
        e.readAnew (w.afterAll e (events ++ event :: later)).files
  kept : ∀ event path rules, event ≠ .clear →
    (w.afterAll e events).memory.cache.get? path = some rules →
    (w.afterAll e (events ++ [event])).memory.cache.get? path = some rules

/-- The file layer over a history that starts with a file that is not remembered. -/
theorem remembers_history {e : Engine} {w : World} (hpath : e.configPath ≠ "")
    (hstart : e.remembered? w.memory = none) (events : List Event) : Remembers e w events := by
  have hanew : ∀ events, Unloaded e w events →
      (w.afterAll e events).fileLayer e = e.readAnew (w.afterAll e events).files :=
    fun _ h => fileLayer_of_forgotten hpath (remembered?_of_unloaded hstart h)
  refine ⟨unloaded_or_firstLoad e w events, hanew events, ?_, ?_, ?_⟩
  · intro before hfirst
    obtain ⟨rules, hread, hnull, hremembered⟩ :=
      exists_remembered?_of_firstLoad hpath hstart hfirst
    obtain ⟨bytes, hbytes, hparse⟩ := exists_of_readAnew hread
    have hlayer : (w.afterAll e events).fileLayer e = .ok rules :=
      fileLayer_of_remembered hpath hnull hremembered
    refine ⟨bytes, rules, hbytes, hparse, fun later hlater => ?_⟩
    rw [World.afterAll_append]
    have hlayer' : ((w.afterAll e events).afterAll e later).fileLayer e = .ok rules :=
      fileLayer_of_remembered hpath hnull (World.get?_cache_afterAll hlater hremembered)
    exact ⟨hlayer', World.alike_of_fileLayer (hlayer'.trans hlayer.symm)⟩
  · intro event f hloads hlayer
    have hclear : event ≠ .clear := by
      rintro rfl
      exact hloads
    rw [World.afterAll_concat]
    refine ⟨World.cache_after_of_error hlayer hclear, fun later hlater => ?_⟩
    have hnot : ¬ LoadsAt e w events event := by
      rintro ⟨-, rules, hrules⟩
      cases hlayer.symm.trans hrules
    have hunloaded := (unloaded_of_error hpath hstart hlayer).concat hnot
    rw [List.append_cons]
    exact hanew _ (hunloaded.append hlater)
  · intro event path rules hclear h
    rw [World.afterAll_concat]
    exact World.get?_cache_after hclear h

def emptyWorld : World := ⟨⟨[], []⟩, ⟨[], []⟩⟩

def sampleBytes : List Nat :=
  "\x7b\"rules\": \x7b\"notes/option\": \x7b\"x\": 3\x7d\x7d\x7d".toList.map Char.toNat

theorem parse_sampleBytes :
    ConfigFile.parse "/rules.json" sampleBytes = .ok (sampleLayer notingRule.name 3) := by
  refine ConfigFile.parse_ascii (by decide +kernel) ?_
    (v := .obj [("rules", .obj (sampleLayer notingRule.name 3))]) rfl
  simp only [String.reduceToList]
  rfl

theorem readAnew_sampleEngine (bytes : List Nat) :
    sampleEngine.readAnew ⟨[], [("/rules.json", bytes)]⟩ =
      ConfigFile.parse "/rules.json" bytes := rfl

theorem read_sampleEngine (bytes : List Nat) :
    (Files.mk [] [("/rules.json", bytes)]).read (Files.steps sampleEngine.configPath) =
      .ok bytes := rfl

def sampleEvents : List Event :=
  [.write "/rules.json" sampleBytes, .resolve .null, .write "/rules.json" []]

theorem remembers_history_sample :
    FirstLoad sampleEngine emptyWorld sampleEvents [.write "/rules.json" sampleBytes] ∧
    (emptyWorld.afterAll sampleEngine sampleEvents).fileLayer sampleEngine =
      .ok (sampleLayer notingRule.name 3) ∧
    ∃ f, sampleEngine.readAnew (emptyWorld.afterAll sampleEngine sampleEvents).files =
      .error f := by
  have hpath : sampleEngine.configPath ≠ "" := by decide
  have hstart : sampleEngine.remembered? emptyWorld.memory = none := rfl
  have hbefore : Unloaded sampleEngine emptyWorld [.write "/rules.json" sampleBytes] :=
    unloaded_nil.append (by simp [Event.Loads])
  have hfiles : (emptyWorld.afterAll sampleEngine [.write "/rules.json" sampleBytes]).files =
      ⟨[], [("/rules.json", sampleBytes)]⟩ := rfl
  have hanew := (remembers_history hpath hstart _).anew hbefore
  rw [hfiles, readAnew_sampleEngine, parse_sampleBytes] at hanew
  have hfirst : FirstLoad sampleEngine emptyWorld sampleEvents
      [.write "/rules.json" sampleBytes] :=
    ⟨.resolve .null, [.write "/rules.json" []], rfl, by simp, ⟨trivial, _, hanew⟩, hbefore⟩
  obtain ⟨bytes, rules, hbytes, hparse, hpinned⟩ :=
    (remembers_history hpath hstart sampleEvents).pinned _ hfirst
  rw [hfiles, read_sampleEngine] at hbytes
  obtain rfl := Except.ok.inj hbytes
  obtain rfl := Except.ok.inj (parse_sampleBytes.symm.trans hparse)
  have hlayer := (hpinned [] List.not_mem_nil).1
  rw [List.append_nil] at hlayer
  have hnow : (emptyWorld.afterAll sampleEngine sampleEvents).files =
      ⟨[], [("/rules.json", [])]⟩ := rfl
  refine ⟨hfirst, hlayer, ?_⟩
  rw [hnow, readAnew_sampleEngine]
  exact ⟨_, rfl⟩

end Engine

end DesignLint
