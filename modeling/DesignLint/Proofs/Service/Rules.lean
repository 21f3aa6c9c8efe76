import DesignLint.Proofs.Bundled.Texts
import DesignLint.Proofs.Service.Lint

/-! # Requests for the rules -/

namespace DesignLint

namespace Service

variable {s : Service} {files : Files} {overrides : Json} {m : Memory} {file given : Keyed Json}
  {listings : List Engine.RuleListing}

/-! ## Responses -/

def rulesRequest (body : List Nat) : Request :=
  ⟨Endpoint.rules.method, Endpoint.rules.path, body⟩

theorem exists_ruleJson?_iff {l : Engine.RuleListing} :
    (∃ v, ruleJson? l = some v) ↔ ∃ s, l.title = .str s := by
  unfold ruleJson?
  split
  · rename_i title htitle
    exact iff_of_true ⟨_, rfl⟩ ⟨title, htitle⟩
  · rename_i hnone
    refine iff_of_false (fun ⟨_, h⟩ => nomatch h) (fun ⟨s, h⟩ => hnone s h)

theorem respond_rulesRequest (hlistings : ((s.engine.describe files .null).run m).1 = .ok listings)
    (body : List Nat) :
    (s.respond files (rulesRequest body) m).1 =
      match listings.mapM ruleJson? with
      | some shown => .ok (Json.arr shown).finite
      | none => .unexpected := by
  have hdescribe : (s.engine.describe files .null).run m = (.ok listings, _) :=
    Prod.ext hlistings rfl
  rw [rulesRequest, respond_endpoint, serve, rules, Work.run_bind, hdescribe]
  dsimp only
  cases listings.mapM ruleJson? <;> rfl

theorem respond_of_texts (hlistings : ((s.engine.describe files .null).run m).1 = .ok listings)
    (h : ∀ l ∈ listings, ∃ t, l.title = .str t) (body : List Nat) :
    ∃ shown, List.Forall₂ (fun l v => ruleJson? l = some v) listings shown ∧
      (s.respond files (rulesRequest body) m).1 = .ok (Json.arr shown).finite := by
  obtain ⟨shown, hshown⟩ := Outcome.exists_mapM_eq_some_iff.mpr fun l hl =>
    exists_ruleJson?_iff.mpr (h l hl)
  refine ⟨shown, Outcome.mapM_eq_some_iff.mp hshown, ?_⟩
  rw [respond_rulesRequest hlistings, hshown]

theorem respond_of_misfit (hlistings : ((s.engine.describe files .null).run m).1 = .ok listings)
    (h : ¬ ∀ l ∈ listings, ∃ t, l.title = .str t) (body : List Nat) :
    (s.respond files (rulesRequest body) m).1 = .unexpected := by
  have hnone : listings.mapM ruleJson? = none := by
    rw [← Option.not_isSome_iff_eq_none, Option.isSome_iff_exists,
      Outcome.exists_mapM_eq_some_iff]
    exact fun hall => h fun l hl => exists_ruleJson?_iff.mp (hall l hl)
  rw [respond_rulesRequest hlistings, hnone]

/-! ## Every configuration -/

/-- There is a listing for each bundled rule, in order. With titles in its file that are texts the
service shows the listings, and otherwise it fails unexpectedly. -/
theorem bundled_rules_listed (hbundled : s.engine.assistant = Bundled.assistant)
    (hf : s.engine.Finds files overrides m file given) :
    (∃ merged listings, ((s.engine.resolve files overrides).run m).1 = .ok merged ∧
      ((s.engine.describe files overrides).run m).1 = .ok listings ∧
      listings.map (·.name) = Bundled.rules.map (·.name) ∧
      List.Forall₂ (s.engine.Shows (s.engine.layers file given) merged) Bundled.rules listings ∧
      ((∀ l ∈ listings, ∃ t, l.title = .str t) ↔
        Layers.GiveTexts (s.engine.layers file given) Bundled.rules)) ∧
    (Layers.GiveTexts (s.engine.layers file []) Bundled.rules → ∀ body, ∃ listings shown,
      ((s.engine.describe files .null).run m).1 = .ok listings ∧
      List.Forall₂ (fun l v => ruleJson? l = some v) listings shown ∧
      (s.respond files (rulesRequest body) m).1 = .ok (Json.arr shown).finite) ∧
    (¬ Layers.GiveTexts (s.engine.layers file []) Bundled.rules → ∀ body,
      (s.respond files (rulesRequest body) m).1 = .unexpected) := by
  refine ⟨?listed, ?_⟩
  case listed =>
    obtain ⟨merged, listings, hmerged, hlistings, hshows⟩ := Bundled.exists_describe hbundled hf
    have hnames := Engine.names_of_lists (hshows.imp fun _ _ h => h.lists)
    exact ⟨merged, listings, hmerged, hlistings, hnames, hshows, Engine.titles_iff hshows⟩
  -- The service asks for listings without overrides.
  have hnull : s.engine.Finds files .null m file [] :=
    ⟨hf.assistant, hf.memory, hf.file, rfl, List.nodup_nil, by simp⟩
  obtain ⟨_, listings, -, hlistings, hshows⟩ := Bundled.exists_describe hbundled hnull
  rw [← Engine.titles_iff hshows]
  refine ⟨fun htexts body => ?_, fun hmisfit => respond_of_misfit hlistings hmisfit⟩
  obtain ⟨shown, hshown, hresponse⟩ := respond_of_texts hlistings htexts body
  exact ⟨listings, shown, hlistings, hshown, hresponse⟩

/-! ## A title that is a number -/

def numberTitle : Keyed Json := [(Ellipsis.name, .obj [("rule_title", .whole 5)])]

theorem isLayer_numberTitle : IsLayer numberTitle :=
  ⟨by simp [numberTitle, Keyed.keys], by simp [numberTitle, Keyed.keys]⟩

theorem not_giveTexts_numberTitle {layers : List (Keyed Json)}
    (h : Layers.givenTitle? layers Ellipsis.name = some (.whole 5)) :
    ¬ Layers.GiveTexts layers Bundled.rules := by
  intro htexts
  obtain ⟨t, ht⟩ := htexts Ellipsis.rule (by simp [Bundled.rules]) _ h
  cases ht

theorem bundled_rules_listed_numberTitle :
    (∃ listings, (((sampleService 50000).engine.describe noFiles (.obj numberTitle)).run
        emptyMemory).1 = .ok listings ∧
      listings.map (·.name) = Bundled.rules.map (·.name) ∧
      ¬ ∀ l ∈ listings, ∃ t, l.title = .str t) ∧
    ∃ shown, ((sampleService 50000).respond noFiles (rulesRequest []) emptyMemory).1 =
      .ok (Json.arr shown).finite := by
  have hfinds : (sampleService 50000).engine.Finds noFiles (.obj numberTitle) emptyMemory []
      numberTitle := ⟨Bundled.isLayer_config, by rintro _ ⟨⟩, rfl, rfl, isLayer_numberTitle⟩
  obtain ⟨⟨_, listings, -, hlistings, hnames, -, htitles⟩, hshows, -⟩ :=
    bundled_rules_listed rfl hfinds
  obtain ⟨-, shown, -, -, hresponse⟩ := hshows Bundled.giveTexts_config []
  refine ⟨⟨listings, hlistings, hnames, ?_⟩, shown, hresponse⟩
  rw [htitles]
  exact not_giveTexts_numberTitle rfl

def fileService : Service :=
  ⟨⟨Bundled.assistant, "/rules.json", ⟨.warn⟩⟩, (sampleService 50000).settings⟩

theorem finds_fileService {bytes : List Nat} {rules : Keyed Json}
    (h : ConfigFile.parse "/rules.json" bytes = .ok rules) :
    fileService.engine.Finds ⟨[], [("/rules.json", bytes)]⟩ .null emptyMemory rules [] where
  assistant := Bundled.isLayer_config
  memory := by rintro _ ⟨⟩
  file := (Engine.fileLayer_of_forgotten (by decide) rfl).trans h
  overrides := rfl
  given := ⟨List.nodup_nil, by simp⟩

def numberTitleBytes : List Nat :=
  ("\x7b\"rules\": \x7b\"ios-accessibility-assistant/includes-ellipsis\": " ++
    "\x7b\"rule_title\": 5\x7d\x7d\x7d").toList.map Char.toNat

theorem parse_numberTitleBytes :
    ConfigFile.parse "/rules.json" numberTitleBytes = .ok numberTitle := by
  refine ConfigFile.parse_ascii (by decide +kernel) ?_ (v := .obj [("rules", .obj numberTitle)]) rfl
  simp only [String.reduceToList, String.toList_append]
  rfl

/-- With such a file the title of a listing is no text, and the service fails. -/
theorem numberTitle_unexpected :
    ConfigFile.parse "/rules.json" numberTitleBytes = .ok numberTitle ∧
    (∃ listings, ((fileService.engine.describe ⟨[], [("/rules.json", numberTitleBytes)]⟩ .null).run
        emptyMemory).1 = .ok listings ∧ ¬ ∀ l ∈ listings, ∃ t, l.title = .str t) ∧
    (fileService.respond ⟨[], [("/rules.json", numberTitleBytes)]⟩ (rulesRequest [])
      emptyMemory).1 = .unexpected := by
  obtain ⟨_, listings, -, hlistings, hshows⟩ :=
    Bundled.exists_describe rfl (finds_fileService parse_numberTitleBytes)
  have hmisfit : ¬ ∀ l ∈ listings, ∃ t, l.title = .str t := by
    rw [Engine.titles_iff hshows]
    exact not_giveTexts_numberTitle rfl
  exact ⟨parse_numberTitleBytes, ⟨listings, hlistings, hmisfit⟩,
    respond_of_misfit hlistings hmisfit []⟩

end Service

end DesignLint
