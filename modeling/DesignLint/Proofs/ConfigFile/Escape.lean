import DesignLint.Proofs.ConfigFile
import DesignLint.Proofs.Json.Reader

/-!
# Faults that escape from loading a configuration file

Loading rejects a file that cannot be used, except for three things: a path that holds the null
character, bytes that are no UTF-8, and a whole number with too many digits. There are just these
three among files without links, as long as the directory of the process is there and paths are
texts.
-/

namespace DesignLint

/-! ## Digits and line breaks -/

section Lines

variable {run s : List Char}

theorem eq_nil_of_prefix_newline (hrun : '\n' ∉ run) (h : run <+: '\n' :: s) : run = [] := by
  rcases List.prefix_cons_iff.mp h with rfl | ⟨_, rfl, -⟩
  · rfl
  · exact absurd List.mem_cons_self hrun

namespace ConfigFile

theorem prefix_of_prefix_plainLines (hrun : '\n' ∉ run) (h : run <+: plainLines s) : run <+: s := by
  induction s using plainLines.induct generalizing run with
  | case1 rest _ =>
    rw [plainLines] at h
    rw [eq_nil_of_prefix_newline hrun h]
    exact List.nil_prefix
  | case2 rest hbreak _ =>
    rw [plainLines.eq_2 _ hbreak] at h
    rw [eq_nil_of_prefix_newline hrun h]
    exact List.nil_prefix
  | case3 c rest hbreak hreturn ih =>
    rw [plainLines.eq_3 _ _ hbreak hreturn] at h
    rcases List.prefix_cons_iff.mp h with rfl | ⟨more, rfl, hmore⟩
    · exact List.nil_prefix
    · exact List.cons_prefix_cons.mpr ⟨rfl, ih (List.not_mem_of_not_mem_cons hrun) hmore⟩
  | case4 => exact h

theorem infix_of_infix_plainLines (hrun : '\n' ∉ run) (h : run <:+: plainLines s) : run <:+: s := by
  induction s using plainLines.induct with
  | case1 rest ih =>
    rw [plainLines] at h
    rcases List.infix_cons_iff.mp h with hstart | hlater
    · rw [eq_nil_of_prefix_newline hrun hstart]
      exact List.nil_infix
    · exact (ih hlater).trans ⟨['\r', '\n'], [], by simp⟩
  | case2 rest hbreak ih =>
    rw [plainLines.eq_2 _ hbreak] at h
    rcases List.infix_cons_iff.mp h with hstart | hlater
    · rw [eq_nil_of_prefix_newline hrun hstart]
      exact List.nil_infix
    · exact List.infix_cons (ih hlater)
  | case3 c rest hbreak hreturn ih =>
    have hplain := plainLines.eq_3 _ _ hbreak hreturn
    rw [hplain] at h
    rcases List.infix_cons_iff.mp h with hstart | hlater
    · rw [← hplain] at hstart
      exact (prefix_of_prefix_plainLines hrun hstart).isInfix
    · exact List.infix_cons (ih hlater)
  | case4 => exact h

theorem isLongRun_of_plainLines (h : Json.IsLongRun (plainLines s) run) : Json.IsLongRun s run where
  inside := infix_of_infix_plainLines (fun hbreak => absurd (h.digits _ hbreak) (by decide)) h.inside
  digits := h.digits
  long := h.long

end ConfigFile

end Lines

namespace ConfigFile

/-! ## What escapes -/

/-- A file is read anew: it is not remembered, and these are its bytes. -/
structure IsRead (files : Files) (m : Memory) (path : String) (bytes : List Nat) : Prop where
  plain : Files.holdsNull path = false
  fresh : m.cache.get? (Files.resolve path) = none
  found : files.read (Files.steps path) = .ok bytes

/-- Loading fails with a fault other than that of a configuration file. -/
inductive Escape (files : Files) (m : Memory) (path : String) : Fault → Prop
  | null (held : Files.holdsNull path = true) : Escape files m path .innerNull
  | undecodable {bytes : List Nat} (file : IsRead files m path bytes)
    (garbled : Json.Encoding.chars8? bytes = none) : Escape files m path .encoding
  | digits {bytes : List Nat} {text : List Char} {count : Nat} (file : IsRead files m path bytes)
    (decoded : Json.Encoding.chars8? bytes = some text)
    (excess : Json.read (plainLines text) = .error (.digits count)) :
    Escape files m path (.digits count)

variable {files : Files} {m : Memory} {path : String} {bytes : List Nat} {f : Fault}

theorem configFile_or_escape_of_parse (file : IsRead files m path bytes)
    (h : parse path bytes = .error f) : (∃ g, f = .configFile g) ∨ Escape files m path f := by
  unfold parse at h
  split at h
  · rename_i htext
    cases h
    exact .inr (.undecodable file htext)
  · rename_i text htext
    split at h
    · cases h
      exact .inl ⟨_, rfl⟩
    · rename_i count hvalue
      cases h
      exact .inr (.digits file htext hvalue)
    · split at h
      · cases h
      · cases h
        exact .inl ⟨_, rfl⟩

theorem run_load_cases (files : Files) (m : Memory) (path : String) :
    (∃ rules, ((load files path).run m).1 = .ok rules) ∨
      ∃ f, (load files path).run m = (.error f, m) ∧
        ((∃ g, f = .configFile g) ∨ Escape files m path f) := by
  rw [run_load]
  split
  · rename_i hnull
    exact .inr ⟨_, rfl, .inr (.null hnull)⟩
  · rename_i hplain
    cases hfresh : m.cache.get? (Files.resolve path) with
    | some rules => exact .inl ⟨rules, rfl⟩
    | none =>
      cases hread : readFile files path with
      | ok rules => exact .inl ⟨rules, rfl⟩
      | error f =>
        refine .inr ⟨f, rfl, ?_⟩
        unfold readFile at hread
        split at hread
        · rename_i bytes hbytes
          exact configFile_or_escape_of_parse ⟨by simpa using hplain, hfresh, hbytes⟩ hread
        · cases hread
          exact .inl ⟨_, rfl⟩

theorem readFile_of_isRead (h : IsRead files m path bytes) :
    readFile files path = parse path bytes := by
  rw [readFile, h.found]

theorem run_load_of_isRead (h : IsRead files m path bytes) (hparse : parse path bytes = .error f) :
    (load files path).run m = (.error f, m) := by
  rw [run_load, if_neg (by simp [h.plain]), h.fresh]
  simp only [readFile_of_isRead h, hparse]

theorem run_load_of_escape (h : Escape files m path f) :
    (load files path).run m = (.error f, m) := by
  cases h with
  | null held => rw [run_load, if_pos held]
  | undecodable file garbled =>
    refine run_load_of_isRead file ?_
    rw [parse, garbled]
  | digits file decoded excess =>
    refine run_load_of_isRead file ?_
    rw [parse, decoded]
    simp only [excess]

theorem not_escape (hpath : Files.holdsNull path = false)
    (hfile : ∀ bytes, files.read (Files.steps path) = .ok bytes →
      ∃ text, Json.Encoding.chars8? bytes = some text ∧ ∀ run, ¬ Json.IsLongRun text run) :
    ¬ Escape files m path f := by
  intro h
  cases h with
  | null held => rw [hpath] at held; cases held
  | undecodable file garbled =>
    obtain ⟨_, htext, -⟩ := hfile _ file.found
    rw [garbled] at htext
    cases htext
  | digits file decoded excess =>
    obtain ⟨_, htext, hruns⟩ := hfile _ file.found
    obtain rfl := Option.some.inj (decoded.symm.trans htext)
    obtain ⟨run, hrun, -⟩ := Json.exists_isLongRun_of_read excess
    exact hruns run (isLongRun_of_plainLines hrun)

/-! ## The law -/

/-- Loading returns a layer or rejects the file exactly when nothing escapes, and nothing escapes of
a plain path to a file in UTF-8 without a long run of digits. Files with links are not spoken of,
nor is a process whose directory is gone. -/
theorem returns_or_rejects_iff (files : Files) (path : String) (hm : m.IsSound) :
    (((∃ rules, ((load files path).run m).1 = .ok rules ∧ IsLayer rules) ∨
        ∃ g, (load files path).run m = (.error (.configFile g), m)) ↔
      ∀ f, ¬ Escape files m path f) ∧
    (∀ f, Escape files m path f → (load files path).run m = (.error f, m)) ∧
    (∀ f, ((load files path).run m).1 = .error f → ((load files path).run m).2 = m) ∧
    ((load files path).run m).2.IsSound ∧
    (Files.holdsNull path = false →
      (∀ bytes, files.read (Files.steps path) = .ok bytes →
        ∃ text, Json.Encoding.chars8? bytes = some text ∧ ∀ run, ¬ Json.IsLongRun text run) →
      ∀ f, ¬ Escape files m path f) := by
  refine ⟨⟨?_, ?_⟩, fun f => run_load_of_escape, ?_, keeps_load files path m hm,
    fun hpath hfile f => not_escape hpath hfile⟩
  · intro h f hf
    have hescaped := run_load_of_escape hf
    rcases h with ⟨rules, hrules, -⟩ | ⟨g, hg⟩
    · rw [hescaped] at hrules
      cases hrules
    · rw [hescaped] at hg
      cases hg
      cases hf
  · intro hnone
    rcases run_load_cases files m path with ⟨rules, hrules⟩ | ⟨f, hfailed, ⟨g, rfl⟩ | hf⟩
    · exact .inl ⟨rules, hrules, isLayer_of_load hm hrules⟩
    · exact .inr ⟨g, hfailed⟩
    · exact absurd hf (hnone f)
  · intro f hf
    rcases run_load_cases files m path with ⟨rules, hrules⟩ | ⟨g, hfailed, -⟩
    · cases hf.symm.trans hrules
    · rw [hfailed]

def oneFile (bytes : List Nat) : Files := ⟨[], [("/rules.json", bytes)]⟩

theorem returns_or_rejects_iff_empty : Memory.IsSound ⟨[], []⟩ ∧
    ∃ g, (load (oneFile []) "/rules.json").run ⟨[], []⟩ = (.error (.configFile g), ⟨[], []⟩) := by
  have hsound : Memory.IsSound ⟨[], []⟩ := fun e he => absurd he List.not_mem_nil
  obtain ⟨hiff, -, -, -, hplain⟩ := returns_or_rejects_iff (oneFile []) "/rules.json" hsound
  have hread : (oneFile []).read (Files.steps "/rules.json") = .ok [] := rfl
  have hnone := hplain rfl fun bytes hbytes => by
    obtain rfl := Except.ok.inj (hread.symm.trans hbytes)
    refine ⟨[], rfl, fun run hrun => ?_⟩
    rw [List.infix_nil.mp hrun.inside] at hrun
    exact absurd hrun.long (by decide)
  refine ⟨hsound, ?_⟩
  rcases hiff.mpr hnone with ⟨rules, hrules, -⟩ | hrejected
  · have hfailed : ∃ f, parse "/rules.json" [] = .error f := ⟨_, rfl⟩
    obtain ⟨f, hf⟩ := hfailed
    rw [run_load_of_isRead ⟨rfl, rfl, hread⟩ hf] at hrules
    cases hrules
  · exact hrejected

/-- A byte that no text in UTF-8 has is neither loaded nor rejected. -/
theorem load_garbled :
    ¬ ((∃ rules, ((load (oneFile [0xff]) "/rules.json").run ⟨[], []⟩).1 = .ok rules) ∨
      ∃ g, ((load (oneFile [0xff]) "/rules.json").run ⟨[], []⟩).1 = .error (.configFile g)) := by
  have hescape : Escape (oneFile [0xff]) ⟨[], []⟩ "/rules.json" .encoding :=
    .undecodable ⟨rfl, rfl, rfl⟩ rfl
  rw [run_load_of_escape hescape]
  rintro (⟨rules, h⟩ | ⟨g, h⟩) <;> cases h

end ConfigFile

end DesignLint
