import DesignLint.Bundled.Assistant
import DesignLint.Proofs.Check.Judge
import DesignLint.Proofs.Number.FloatOrder

/-! # What the bundled rules flag -/

namespace DesignLint

def Text.Contains (s part : String) : Prop :=
  ∃ before after, s.toList = before ++ part.toList ++ after

theorem Text.holds_iff (s part : String) : holds s part = true ↔ Contains s part :=
  occursIn_iff part.toList s.toList

/-- What a rule flags among the nodes of a kind, by the parameters that its options give. -/
structure Criterion where
  rule : Rule
  kind : Kind
  Parameters : Type
  Reads : OptionValues → Parameters → Prop
  Flags : Parameters → Layer → Prop

namespace Bundled

/-! ## Criteria -/

/-- Artboards without an allowed size. One with the same width and height fits; if heights may be
exceeded, so does one with the same width that is not higher than the artboard. -/
def artboardCriterion : Criterion where
  rule := ArtboardSize.rule
  kind := .artboard
  Parameters := Bool × List Size
  Reads := fun o (exceeding, sizes) =>
    (∃ v, o.get "allow_exceeding_height" = .ok v ∧ exceeding = v.isGiven) ∧
      ∃ texts, o.get "sizes" = .ok (.texts texts) ∧ texts.mapM Size.parse = .ok sizes
  Flags := fun (exceeding, sizes) l =>
    ¬ ∃ s ∈ sizes, s.width == l.frame.width ∧
      if exceeding then s.height ≤ l.frame.height else l.frame.height == s.height

def IsLarge (least : Float) (l : Layer) : Prop := least ≤ l.frame.width ∧ least ≤ l.frame.height

/-- Small symbol instances whose names, in lower case, match a pattern somewhere. -/
def symbolCriterion : Criterion where
  rule := TapTarget.Symbol.rule
  kind := .symbolInstance
  Parameters := Float × Pattern.Node
  Reads := fun o (least, pattern) =>
    o.get "min_size" = .ok (.num (.float least)) ∧
      ∃ text, o.get "name_pattern" = .ok (.str text) ∧
        TapTarget.Symbol.readPattern text = .ok pattern
  Flags := fun (least, pattern) l =>
    pattern.isFoundIn (Text.lower l.name) = true ∧ ¬ IsLarge least l

def interactiveCriterion : Criterion where
  rule := TapTarget.Interactive.rule
  kind := .anyLayer
  Parameters := Float
  Reads := fun o least => o.get "min_size" = .ok (.num (.float least))
  Flags := fun least l => l.flow ≠ none ∧ ¬ IsLarge least l

def NamesFamily (o : OptionValues) (_ : Unit) : Prop := ∃ v, o.get "pattern" = .ok v

/-- Texts in San Francisco whose cut is not that for their size. -/
def sanFranciscoCriterion : Criterion where
  rule := OpticalSize.SanFrancisco.rule
  kind := .text
  Parameters := Unit
  Reads := NamesFamily
  Flags := fun _ l =>
    let name := textFont.fontName l
    let size := textFont.fontSize l
    Text.Contains name "SF" ∧
      (size < 20 ∧ ¬ Text.Contains name "Text" ∨ 20 ≤ size ∧ ¬ Text.Contains name "Display")

def newYorkCriterion : Criterion where
  rule := OpticalSize.NewYork.rule
  kind := .text
  Parameters := Unit
  Reads := NamesFamily
  Flags := fun _ l =>
    let name := textFont.fontName l
    let size := textFont.fontSize l
    Text.Contains name "NewYork" ∧
      (size < 20 ∧ ¬ Text.Contains name "Small" ∨
        (20 ≤ size ∧ size ≤ 35) ∧ ¬ Text.Contains name "Regular" ∨
        (36 ≤ size ∧ size ≤ 53) ∧ ¬ Text.Contains name "Large" ∨
        54 ≤ size ∧ ¬ Text.Contains name "ExtraLarge")

def weightCriterion : Criterion where
  rule := FontWeight.rule
  kind := .text
  Parameters := List String
  Reads := fun o allowed => o.get "pattern" = .ok (.texts allowed)
  Flags := fun allowed l => ∀ w, fontWeight? (textFont.fontName l) = some w → w ∉ allowed

def ellipsisCriterion : Criterion where
  rule := Ellipsis.rule
  kind := .text
  Parameters := Unit
  Reads := fun _ _ => True
  Flags := fun _ l =>
    ∃ s, l.content = some s ∧
      (Text.Contains s "…" ∨ Text.Contains s ". . ." ∨ Text.Contains s "...")

def criteria : List Criterion := [
  artboardCriterion, symbolCriterion, interactiveCriterion, sanFranciscoCriterion,
  newYorkCriterion, weightCriterion, ellipsisCriterion]

end Bundled

/-! ## Judging by a criterion -/

/-- The check of a rule reads the parameters of a criterion, and judges by a verdict that says one
thing of what is flagged and nothing else. -/
structure Criterion.JudgedBy (c : Criterion)
    (verdict : c.Parameters → Layer → Except Fault (List String)) : Prop where
  reads : ∀ {x : Context} {s t : Session}, s.closed = false →
    c.rule.check.run x s = (.ok (), t) →
    ∃ p, c.Reads x.options p ∧
      (Check.judge (verdict p) (x.index.nodes c.kind)).run x s = (.ok (), t)
  flags : ∀ p l messages, verdict p l = .ok messages → Check.SaysOnce (c.Flags p l) messages

namespace Check

theorem saysOnce_of_iff {flagged : Prop} {b : Bool} {m : String} (h : b = true ↔ flagged) :
    SaysOnce flagged (if b then [m] else []) := by
  cases b with
  | true => exact .inl ⟨h.mp rfl, m, rfl⟩
  | false => exact .inr ⟨fun hf => Bool.false_ne_true (h.mpr hf), rfl⟩

theorem saysOnce_of_not_iff {flagged : Prop} {b : Bool} {m : String} (h : b = false ↔ flagged) :
    SaysOnce flagged (if b then [] else [m]) := by
  cases b with
  | true => exact .inr ⟨fun hf => Bool.false_ne_true (h.mpr hf).symm, rfl⟩
  | false => exact .inl ⟨h.mp rfl, m, rfl⟩

end Check

namespace Bundled

open Check

theorem artboard_judgedBy : artboardCriterion.JudgedBy fun (exceeding, sizes) =>
    ArtboardSize.verdict exceeding sizes where
  reads := by
    intro x s t hopen h
    obtain ⟨exceeding, u, hread, h⟩ := run_bind_eq_ok_iff.mp h
    obtain ⟨hexceeding, rfl⟩ := options_of_flagOption hopen hread
    obtain ⟨texts, u, hread, h⟩ := run_bind_eq_ok_iff.mp h
    obtain ⟨htexts, rfl⟩ := options_of_textsOption hopen hread
    obtain ⟨sizes, u, hread, h⟩ := run_bind_eq_ok_iff.mp h
    obtain ⟨hsizes, rfl⟩ := run_ofResult_eq_ok_iff.mp hread
    exact ⟨(exceeding, sizes), ⟨hexceeding, texts, htexts, hsizes⟩, h⟩
  flags := by
    rintro ⟨exceeding, sizes⟩ l messages ⟨⟩
    refine saysOnce_of_not_iff ?_
    cases exceeding <;>
      simp [ArtboardSize.isAllowed, ArtboardSize.fits, artboardCriterion]

theorem isLarge_iff (least : Float) (l : Layer) :
    TapTarget.isLarge least l.frame = true ↔ IsLarge least l := by
  simp [TapTarget.isLarge, IsLarge]

theorem symbol_judgedBy : symbolCriterion.JudgedBy fun (least, pattern) =>
    TapTarget.Symbol.verdict least pattern where
  reads := by
    intro x s t hopen h
    obtain ⟨least, u, hread, h⟩ := run_bind_eq_ok_iff.mp h
    obtain ⟨hleast, rfl⟩ := options_of_floatOption hopen hread
    obtain ⟨text, u, hread, h⟩ := run_bind_eq_ok_iff.mp h
    obtain ⟨htext, rfl⟩ := options_of_textOption hopen hread
    obtain ⟨pattern, u, hread, h⟩ := run_bind_eq_ok_iff.mp h
    obtain ⟨hpattern, rfl⟩ := run_ofResult_eq_ok_iff.mp hread
    exact ⟨(least, pattern), ⟨hleast, text, htext, hpattern⟩, h⟩
  flags := by
    rintro ⟨least, pattern⟩ l messages ⟨⟩
    refine saysOnce_of_iff ?_
    simp [TapTarget.Symbol.isBad, symbolCriterion, ← isLarge_iff]

theorem interactive_judgedBy :
    interactiveCriterion.JudgedBy TapTarget.Interactive.verdict where
  reads := by
    intro x s t hopen h
    obtain ⟨least, u, hread, h⟩ := run_bind_eq_ok_iff.mp h
    obtain ⟨hleast, rfl⟩ := options_of_floatOption hopen hread
    exact ⟨least, hleast, h⟩
  flags := by
    rintro (least : Float) l messages ⟨⟩
    refine saysOnce_of_iff ?_
    simp [TapTarget.Interactive.isBad, interactiveCriterion, ← isLarge_iff, Layer.isInteractive,
      Option.isSome_iff_ne_none]

/-! ## Fonts -/

theorem textFont_eq_ok {l : Layer} {font : Font} (h : textFont l = .ok font) :
    font = ⟨textFont.fontName l, textFont.fontSize l⟩ := by
  unfold textFont at h
  split at h
  · cases h
    rfl
  · cases h

theorem checkFonts_reads {complaints : Font → List String} {x : Context} {s t : Session}
    (hopen : s.closed = false) (h : (OpticalSize.checkFonts complaints).run x s = (.ok (), t)) :
    ∃ p, NamesFamily x.options p ∧
      (judge (fun l => (textFont l).map complaints) (x.index.nodes .text)).run x s =
        (.ok (), t) := by
  obtain ⟨v, u, hread, h⟩ := run_bind_eq_ok_iff.mp h
  obtain ⟨hv, rfl⟩ := (run_option_eq_ok_iff hopen).mp hread
  exact ⟨(), ⟨v, hv⟩, h⟩

theorem sanFrancisco_complaints (font : Font) :
    SaysOnce (Text.Contains font.name "SF" ∧
      (font.size < 20 ∧ ¬ Text.Contains font.name "Text" ∨
        20 ≤ font.size ∧ ¬ Text.Contains font.name "Display"))
      (OpticalSize.SanFrancisco.complaints font) := by
  simp only [← Text.holds_iff]
  unfold OpticalSize.SanFrancisco.complaints OpticalSize.SanFrancisco.displayFloat
    OpticalSize.SanFrancisco.marker
  cases hmark : Text.holds font.name "SF" with
  | false => exact .inr ⟨by simp, by simp⟩
  | true =>
    by_cases hsmall : font.size < 20
    · have hlarge : ¬ 20 ≤ font.size := FloatOrder.not_le_of_lt hsmall
      cases htext : Text.holds font.name "Text" with
      | false => exact .inl ⟨by simp [hsmall], _, by simp [hsmall, hlarge]; rfl⟩
      | true => exact .inr ⟨by simp [hlarge], by simp [hlarge]⟩
    · by_cases hlarge : 20 ≤ font.size
      · cases hdisplay : Text.holds font.name "Display" with
        | false => exact .inl ⟨by simp [hlarge], _, by simp [hsmall, hlarge]; rfl⟩
        | true => exact .inr ⟨by simp [hsmall], by simp [hsmall]⟩
      · exact .inr ⟨by simp [hsmall, hlarge], by simp [hsmall, hlarge]⟩

theorem sanFrancisco_judgedBy : sanFranciscoCriterion.JudgedBy fun _ l =>
    (textFont l).map OpticalSize.SanFrancisco.complaints where
  reads := checkFonts_reads
  flags := by
    intro _ l messages h
    obtain ⟨font, hfont, rfl⟩ := Outcome.map_eq_ok_iff.mp h
    rw [textFont_eq_ok hfont]
    exact sanFrancisco_complaints ⟨textFont.fontName l, textFont.fontSize l⟩

theorem filter_of_pairwise {α : Type} (p : α → Bool) {l : List α}
    (h : l.Pairwise fun a b => ¬ (p a = true ∧ p b = true)) :
    (∃ a ∈ l, p a = true ∧ l.filter p = [a]) ∨ (∀ a ∈ l, p a = false) ∧ l.filter p = [] := by
  induction l with
  | nil => exact .inr ⟨by simp, rfl⟩
  | cons a rest ih =>
    obtain ⟨hfirst, hrest⟩ := List.pairwise_cons.mp h
    cases ha : p a with
    | true =>
      have hothers : rest.filter p = [] := by
        rw [List.filter_eq_nil_iff]
        exact fun b hb hpb => hfirst b hb ⟨ha, hpb⟩
      exact .inl ⟨a, List.mem_cons_self, ha, by simp [ha, hothers]⟩
    | false =>
      rcases ih hrest with ⟨b, hb, hpb, hfilter⟩ | ⟨hnone, hfilter⟩
      · exact .inl ⟨b, List.mem_cons_of_mem _ hb, hpb, by simp [ha, hfilter]⟩
      · exact .inr ⟨List.forall_mem_cons.mpr ⟨ha, hnone⟩, by simp [ha, hfilter]⟩

theorem cuts_exclusive (size : Float) :
    OpticalSize.NewYork.cuts.Pairwise fun c d => ¬ (c.applies size = true ∧ d.applies size = true) := by
  have hapart : ∀ a b : Float, a < b → size ≤ a → ¬ b ≤ size := fun a b hab ha =>
    FloatOrder.not_le_of_lt (FloatOrder.lt_of_le_of_lt ha hab)
  have hsmall : size < 20 → ¬ 20 ≤ size ∧ ¬ 36 ≤ size ∧ ¬ 54 ≤ size := fun h =>
    ⟨FloatOrder.not_le_of_lt h, hapart 20 36 (by decide) (FloatOrder.le_of_lt h),
      hapart 20 54 (by decide) (FloatOrder.le_of_lt h)⟩
  have hmedium : size ≤ 35 → ¬ 36 ≤ size ∧ ¬ 54 ≤ size := fun h =>
    ⟨hapart 35 36 (by decide) h, hapart 35 54 (by decide) h⟩
  have hlarge : size ≤ 53 → ¬ 54 ≤ size := hapart 53 54 (by decide)
  simp only [OpticalSize.NewYork.cuts, List.pairwise_cons, List.mem_cons, List.not_mem_nil,
    decide_eq_true_eq, Bool.and_eq_true, or_false, forall_eq_or_imp, forall_eq]
  refine ⟨⟨?_, ?_, ?_⟩, ⟨?_, ?_⟩, ?_, ?_⟩
  · exact fun h => (hsmall h.1).1 h.2.1
  · exact fun h => (hsmall h.1).2.1 h.2.1
  · exact fun h => (hsmall h.1).2.2 h.2
  · exact fun h => (hmedium h.1.2).1 h.2.1
  · exact fun h => (hmedium h.1.2).2 h.2
  · exact fun h => hlarge h.1.2 h.2
  · exact ⟨fun _ h => h.elim, .nil⟩

theorem exists_missing_iff (font : Font) :
    (∃ c ∈ OpticalSize.NewYork.cuts,
        (c.applies font.size && !Text.holds font.name c.face) = true) ↔
      (font.size < 20 ∧ ¬ Text.Contains font.name "Small" ∨
        (20 ≤ font.size ∧ font.size ≤ 35) ∧ ¬ Text.Contains font.name "Regular" ∨
        (36 ≤ font.size ∧ font.size ≤ 53) ∧ ¬ Text.Contains font.name "Large" ∨
        54 ≤ font.size ∧ ¬ Text.Contains font.name "ExtraLarge") := by
  simp [OpticalSize.NewYork.cuts, ← Text.holds_iff]

theorem newYork_complaints (font : Font) :
    SaysOnce (Text.Contains font.name "NewYork" ∧
      (font.size < 20 ∧ ¬ Text.Contains font.name "Small" ∨
        (20 ≤ font.size ∧ font.size ≤ 35) ∧ ¬ Text.Contains font.name "Regular" ∨
        (36 ≤ font.size ∧ font.size ≤ 53) ∧ ¬ Text.Contains font.name "Large" ∨
        54 ≤ font.size ∧ ¬ Text.Contains font.name "ExtraLarge"))
      (OpticalSize.NewYork.complaints font) := by
  rw [← exists_missing_iff, ← Text.holds_iff]
  unfold OpticalSize.NewYork.complaints OpticalSize.NewYork.missing OpticalSize.NewYork.marker
  cases hmark : Text.holds font.name "NewYork" with
  | false => exact .inr ⟨by simp, by simp⟩
  | true =>
    have hpairs : OpticalSize.NewYork.cuts.Pairwise fun c d =>
        ¬ ((c.applies font.size && !Text.holds font.name c.face) = true ∧
          (d.applies font.size && !Text.holds font.name d.face) = true) :=
      (cuts_exclusive font.size).imp fun hcd h =>
        hcd ⟨(Bool.and_eq_true_iff.mp h.1).1, (Bool.and_eq_true_iff.mp h.2).1⟩
    rcases filter_of_pairwise _ hpairs with ⟨cut, hcut, hmissing, hfilter⟩ | ⟨hnone, hfilter⟩
    · exact .inl ⟨⟨rfl, cut, hcut, hmissing⟩, _, by rw [if_pos rfl, hfilter]; rfl⟩
    · refine .inr ⟨?_, by rw [if_pos rfl, hfilter]; rfl⟩
      rintro ⟨_, cut, hcut, hmissing⟩
      rw [hnone cut hcut] at hmissing
      cases hmissing

theorem newYork_judgedBy : newYorkCriterion.JudgedBy fun _ l =>
    (textFont l).map OpticalSize.NewYork.complaints where
  reads := checkFonts_reads
  flags := by
    intro _ l messages h
    obtain ⟨font, hfont, rfl⟩ := Outcome.map_eq_ok_iff.mp h
    rw [textFont_eq_ok hfont]
    exact newYork_complaints ⟨textFont.fontName l, textFont.fontSize l⟩

theorem weight_judgedBy : weightCriterion.JudgedBy FontWeight.verdict where
  reads := by
    intro x s t hopen h
    obtain ⟨allowed, u, hread, h⟩ := run_bind_eq_ok_iff.mp h
    obtain ⟨hallowed, rfl⟩ := options_of_textsOption hopen hread
    exact ⟨allowed, hallowed, h⟩
  flags := by
    intro (allowed : List String) l messages h
    obtain ⟨font, hfont, rfl⟩ := Outcome.map_eq_ok_iff.mp h
    obtain rfl := textFont_eq_ok hfont
    refine saysOnce_of_not_iff ?_
    cases hw : fontWeight? (textFont.fontName l) <;>
      simp [FontWeight.isAllowed, weightCriterion, hw]

theorem ellipsis_judgedBy : ellipsisCriterion.JudgedBy fun _ => Ellipsis.verdict where
  reads := by
    intro x s t hopen h
    exact ⟨(), trivial, h⟩
  flags := by
    intro _ l messages h
    obtain ⟨text, htext, rfl⟩ := Outcome.map_eq_ok_iff.mp h
    refine saysOnce_of_iff ?_
    have hcontent : l.content = some text := by
      unfold textContent at htext
      split at htext
      · rename_i s hs
        cases htext
        exact hs
      · cases htext
    simp [Ellipsis.hasEllipsis, Ellipsis.forms, ellipsisCriterion, hcontent, Text.holds_iff]

theorem exists_judgedBy (c : Criterion) (hc : c ∈ criteria) : ∃ verdict, c.JudgedBy verdict := by
  simp only [criteria, List.mem_cons, List.not_mem_nil, or_false] at hc
  rcases hc with rfl | rfl | rfl | rfl | rfl | rfl | rfl
  · exact ⟨_, artboard_judgedBy⟩
  · exact ⟨_, symbol_judgedBy⟩
  · exact ⟨_, interactive_judgedBy⟩
  · exact ⟨_, sanFrancisco_judgedBy⟩
  · exact ⟨_, newYork_judgedBy⟩
  · exact ⟨_, weight_judgedBy⟩
  · exact ⟨_, ellipsis_judgedBy⟩

end Bundled

end DesignLint
