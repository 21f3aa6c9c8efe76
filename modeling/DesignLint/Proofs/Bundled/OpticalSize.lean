import DesignLint.Proofs.Bundled.Defaults
import DesignLint.Proofs.Bundled.Reported
import DesignLint.Proofs.Number.FloatValue

/-!
# The cuts of New York

The ranges of the four cuts end at whole sizes, so a size between two of these is one for no cut.
Some faces stand in the names of other cuts.
-/

namespace DesignLint

/-! ## Faces in names -/

namespace Text

theorem contains_iff_isInfix {s part : String} : Contains s part ↔ part.toList <:+: s.toList := by
  unfold Contains
  simp only [List.IsInfix, eq_comm]

theorem contains_dash_iff {a b part : String} (hpart : '-' ∉ part.toList) :
    Contains (a ++ "-" ++ b) part ↔ Contains a part ∨ Contains b part := by
  have hnoPrefix : ∀ l, l <+: '-' :: b.toList → '-' ∉ l → l = [] := by
    intro l hl hdash
    rcases List.prefix_cons_iff.mp hl with rfl | ⟨rest, rfl, -⟩
    · rfl
    · exact absurd List.mem_cons_self hdash
  have hlist : (a ++ "-" ++ b).toList = a.toList ++ '-' :: b.toList := by simp
  rw [contains_iff_isInfix, contains_iff_isInfix, contains_iff_isInfix, hlist,
    List.infix_append_iff, List.infix_cons_iff]
  constructor
  · rintro (ha | (hstart | hb) | ⟨before, rest, heq, hsuffix, hstart⟩)
    · exact .inl ha
    · rw [hnoPrefix _ hstart hpart]
      exact .inl (List.nil_infix)
    · exact .inr hb
    · have hrest : rest = [] := hnoPrefix rest hstart fun h => hpart (by simp [heq, h])
      rw [heq, hrest, List.append_nil]
      exact .inl hsuffix.isInfix
  · rintro (ha | hb)
    · exact .inl ha
    · exact .inr (.inl (.inr hb))

end Text

namespace OpticalSize.NewYork

open FloatOrder

/-! ## Cuts and sizes -/

inductive Optical
  | small
  | medium
  | large
  | extraLarge
  deriving DecidableEq

namespace Optical

def cut : Optical → Cut
  | small => cuts[0]
  | medium => cuts[1]
  | large => cuts[2]
  | extraLarge => cuts[3]

def name : Optical → String
  | small => "Small"
  | medium => "Medium"
  | large => "Large"
  | extraLarge => "ExtraLarge"

def ofWhole (s : ℤ) : Optical :=
  if s < 20 then small else if s ≤ 35 then medium else if s ≤ 53 then large else extraLarge

def ofSize? (a : ℚ) : Option Optical :=
  if a < 20 then some small
  else if a ≤ 35 then some medium
  else if a < 36 then none
  else if a ≤ 53 then some large
  else if a < 54 then none
  else some extraLarge

theorem ofSize?_whole (s : ℤ) : ofSize? s = some (ofWhole s) := by
  have hmedium : ¬ s ≤ 35 → ¬ s < 36 := by omega
  have hlarge : ¬ s ≤ 53 → ¬ s < 54 := by omega
  have hcast : ((s : ℚ) < 20 ↔ s < 20) ∧ ((s : ℚ) ≤ 35 ↔ s ≤ 35) ∧ ((s : ℚ) < 36 ↔ s < 36) ∧
      ((s : ℚ) ≤ 53 ↔ s ≤ 53) ∧ ((s : ℚ) < 54 ↔ s < 54) := by norm_cast
  simp only [ofSize?, ofWhole, hcast]
  split_ifs <;> first | rfl | omega

end Optical

/-- The sizes behind the range of one cut and before that of the next. -/
def BetweenCuts (size : Float) : Prop := 35 < size ∧ size < 36 ∨ 53 < size ∧ size < 54

theorem value_limits :
    value 20 = some 20 ∧ value 35 = some 35 ∧ value 36 = some 36 ∧ value 53 = some 53 ∧
      value 54 = some 54 :=
  ⟨value_of_wholeOf? rfl, value_of_wholeOf? rfl, value_of_wholeOf? rfl, value_of_wholeOf? rfl,
    value_of_wholeOf? rfl⟩

section Size

variable {size : Float} {a : ℚ}

theorem applies_iff (ha : value size = some a) (o : Optical) :
    o.cut.applies size = true ↔ Optical.ofSize? a = some o := by
  obtain ⟨h20, h35, h36, h53, h54⟩ := value_limits
  have hsmall : (Optical.cut .small).applies size = true ↔ a < 20 := by
    rw [← lt_iff_value ha h20]
    exact decide_eq_true_iff
  have hmedium : (Optical.cut .medium).applies size = true ↔ 20 ≤ a ∧ a ≤ 35 := by
    rw [← le_iff_value h20 ha, ← le_iff_value ha h35]
    simp [Optical.cut, cuts]
  have hlarge : (Optical.cut .large).applies size = true ↔ 36 ≤ a ∧ a ≤ 53 := by
    rw [← le_iff_value h36 ha, ← le_iff_value ha h53]
    simp [Optical.cut, cuts]
  have hextraLarge : (Optical.cut .extraLarge).applies size = true ↔ 54 ≤ a := by
    rw [← le_iff_value h54 ha]
    exact decide_eq_true_iff
  unfold Optical.ofSize?
  cases o with
  | small => rw [hsmall]; grind
  | medium => rw [hmedium]; grind
  | large => rw [hlarge]; grind
  | extraLarge => rw [hextraLarge]; grind

theorem filter_applies (ha : value size = some a) :
    cuts.filter (·.applies size) = ((Optical.ofSize? a).map Optical.cut).toList := by
  have hcuts : cuts = [Optical.small, .medium, .large, .extraLarge].map Optical.cut := rfl
  have happlies : ∀ o : Optical, o.cut.applies size = decide (Optical.ofSize? a = some o) := by
    intro o
    rw [Bool.eq_iff_iff, applies_iff ha, decide_eq_true_iff]
  rw [hcuts, List.filter_map]
  simp only [Function.comp_def, happlies]
  rcases Optical.ofSize? a with _ | _ | _ | _ | _ <;> rfl

theorem betweenCuts_iff (ha : value size = some a) :
    BetweenCuts size ↔ Optical.ofSize? a = none := by
  obtain ⟨-, h35, h36, h53, h54⟩ := value_limits
  unfold BetweenCuts Optical.ofSize?
  rw [lt_iff_value h35 ha, lt_iff_value ha h36, lt_iff_value h53 ha, lt_iff_value ha h54]
  split_ifs <;> grind

theorem countP_applies (hsize : size.isFinite = true) :
    (¬ BetweenCuts size → cuts.countP (·.applies size) = 1) ∧
      (BetweenCuts size → cuts.countP (·.applies size) = 0) := by
  obtain ⟨a, ha⟩ := exists_value hsize
  rw [betweenCuts_iff ha, List.countP_eq_length_filter, filter_applies ha]
  cases Optical.ofSize? a <;> simp

end Size

/-! ## What is said of a font -/

theorem missing_eq {font : Font} {a : ℚ} (hmark : Text.Contains font.name "NewYork")
    (ha : value font.size = some a) :
    missing font = ((Optical.ofSize? a).map Optical.cut).toList.filter fun c =>
      !Text.holds font.name c.face := by
  have hholds : Text.holds font.name marker = true := (Text.holds_iff _ _).mpr hmark
  rw [missing, if_pos hholds, ← filter_applies ha, List.filter_filter]
  simp only [Bool.and_comm]

/-- The rule is active and its family is named, over a document that can be indexed and in which no
page goes by the class of texts. -/
structure IsChecked (source : Document.Source) (configs : Keyed ConfigInput) (d : Document) :
    Prop where
  loads : Document.load source = .ok d
  indexed : ∃ x, Index.build (some d.pages) = .ok x
  starts : ∃ values v, Runner.Starts configs rule values ∧ values.get "pattern" = .ok v
  noTextPage : ¬ Bundled.HasTextPage d

theorem IsChecked.reports {source : Document.Source} {configs : Keyed ConfigInput} {d : Document}
    (h : IsChecked source configs d) (r : Runner) :
    (∃ report, r.run source [rule] configs = .ok report ∧ report.result.errors = []) ∧
    ∀ given report, rule ∈ given → r.run source given configs = .ok report →
      ∀ e ∈ Tree.placesAll d.pages, ∀ font, e.2.cls = "text" → textFont e.2 = .ok font →
        report.result.saidOf name e.2.id = complaints font := by
  obtain ⟨raw, -, hread⟩ := Document.load_eq_ok_iff.mp h.loads
  obtain ⟨x, hx⟩ := h.indexed
  obtain ⟨values, v, hstarts, hv⟩ := h.starts
  have hok : ∀ l ∈ x.nodes .text, ∃ m, (textFont l).map complaints = .ok m := by
    obtain ⟨m, hm⟩ := (Bundled.textFont_asksTexts.map complaints).mapM_ok hread hx h.noTextPage
    intro l hl
    obtain ⟨k, -, hk⟩ := Outcome.exists_mem_of_mapM hm hl
    exact ⟨k, hk⟩
  obtain ⟨halone, hruns⟩ := Runner.Starts.saidOf_run (c := Bundled.newYorkCriterion) (p := ()) r
    h.loads hx hstarts Bundled.newYork_judges ⟨v, hv⟩ hok
  refine ⟨halone, ?_⟩
  intro given report hrule hreport e he font hcls hfont
  have hnode : e.2 ∈ x.nodes .text := by
    rw [Index.nodes_of_build hx, List.mem_filter, Bundled.isOf_text_iff, ← Tree.labels_placesAll]
    exact ⟨List.mem_map_of_mem he, hcls⟩
  have hsaid := (hruns given report hrule hreport).2 e.2 hnode
  rw [Check.said, hfont] at hsaid
  exact hsaid

/-! ## Gaps between the cuts -/

/-- A text in New York whose font shows no face is told once to use a cut, unless its size lies
between two cuts. -/
theorem plain_said_once {source : Document.Source} {configs : Keyed ConfigInput} {d : Document}
    (h : IsChecked source configs d) (r : Runner) :
    (∀ size : Float, size.isFinite = true →
      (¬ BetweenCuts size → cuts.countP (·.applies size) = 1) ∧
        (BetweenCuts size → cuts.countP (·.applies size) = 0)) ∧
    (∃ report, r.run source [rule] configs = .ok report ∧ report.result.errors = []) ∧
    ∀ given report, rule ∈ given → r.run source given configs = .ok report →
      ∀ e ∈ Tree.placesAll d.pages, ∀ font, e.2.cls = "text" → textFont e.2 = .ok font →
        font.size.isFinite = true → Text.Contains font.name "NewYork" →
        (∀ c ∈ cuts, ¬ Text.Contains font.name c.face) →
        (¬ BetweenCuts font.size → (report.result.saidOf name e.2.id).length = 1) ∧
          (BetweenCuts font.size → report.result.saidOf name e.2.id = []) := by
  obtain ⟨halone, hreports⟩ := h.reports r
  refine ⟨fun size hsize => countP_applies hsize, halone, ?_⟩
  intro given report hrule hreport e he font hcls hfont hsize hmark hplain
  obtain ⟨a, ha⟩ := exists_value hsize
  have hmissing : missing font = ((Optical.ofSize? a).map Optical.cut).toList := by
    rw [missing_eq hmark ha, ← filter_applies ha, List.filter_eq_self]
    intro c hc
    have hface := hplain c (List.mem_of_mem_filter hc)
    rw [← Text.holds_iff] at hface
    simpa using hface
  rw [hreports given report hrule hreport e he font hcls hfont, complaints, hmissing,
    betweenCuts_iff ha]
  cases Optical.ofSize? a <;> simp

def rawText (font : Font) : Json :=
  Document.rawDocument [Document.rawLayer "_class" (.str "page") "p" [.obj [
    ("_class", .str "text"), ("do_objectID", .str "t"),
    ("frame", .obj [("width", .whole 100), ("height", .whole 20)]),
    ("style", .obj [("textStyle", .obj [("encodedAttributes", .obj [
      ("MSAttributedStringFontAttribute", .obj [("attributes",
        .obj [("name", .str font.name), ("size", .float font.size)])])])])])]]]

def textLayer (font : Font) : Layer where
  form := .text
  cls := "text"
  id := "t"
  name := ""
  frame := ⟨0, 0, 100, 20⟩
  isVisible := true
  flow := none
  style := some ⟨some ⟨some font⟩⟩
  content := some ""
  symbol := none

def textPage : Layer where
  form := .page
  cls := "page"
  id := "p"
  name := ""
  frame := ⟨0, 0, 100, 20⟩
  isVisible := true
  flow := none
  style := none
  content := none
  symbol := none

def textDocument (font : Font) : Document := ⟨"", [.node textPage [.node (textLayer font) []]]⟩

theorem load_rawText (font : Font) :
    Document.load (.value (rawText font)) = .ok (textDocument font) := rfl

theorem isChecked_rawText (font : Font) :
    IsChecked (.value (rawText font)) Bundled.defaultConfigs (textDocument font) where
  loads := load_rawText font
  indexed := by
    obtain ⟨raw, -, hread⟩ := Document.load_eq_ok_iff.mp (load_rawText font)
    have hids : ((Tree.preorderAll (textDocument font).pages).map (·.id)).Nodup := by
      simp [textDocument, textPage, textLayer, Tree.preorderAll, Tree.preorder]
    exact ⟨_, Index.build_indexable _
      ((Document.indexable_iff (Document.isComplete_of_read hread)).mpr hids)⟩
  starts := ⟨_, _, Bundled.newYork_starts, rfl⟩
  noTextPage := by
    rintro ⟨t, ht, hcls⟩
    cases List.mem_singleton.mp ht
    simp [Tree.label, textPage] at hcls

theorem place_textDocument (font : Font) :
    ([0, 0], textLayer font) ∈ Tree.placesAll (textDocument font).pages :=
  (Tree.mem_placesAll_iff _ _ _).mpr rfl

def plainFont : Font := ⟨"NewYork-Bold", 28⟩

theorem plain_said_once_plainFont :
    IsChecked (.value (rawText plainFont)) Bundled.defaultConfigs (textDocument plainFont) ∧
      textFont (textLayer plainFont) = .ok plainFont ∧ plainFont.size.isFinite = true ∧
      Text.Contains plainFont.name "NewYork" ∧
      (∀ c ∈ cuts, ¬ Text.Contains plainFont.name c.face) ∧ ¬ BetweenCuts plainFont.size ∧
      ∃ report, Runner.run ⟨.warn⟩ (.value (rawText plainFont)) [rule] Bundled.defaultConfigs =
        .ok report ∧ report.result.errors = [] ∧ (report.result.saidOf name "t").length = 1 := by
  have hchecked := isChecked_rawText plainFont
  have hfont : textFont (textLayer plainFont) = .ok plainFont := rfl
  have hmark : Text.Contains plainFont.name "NewYork" := (Text.holds_iff _ _).mp rfl
  have hplain : ∀ c ∈ cuts, ¬ Text.Contains plainFont.name c.face := by
    simp only [← Text.holds_iff]
    decide
  have hsize : ¬ BetweenCuts plainFont.size := by
    unfold BetweenCuts
    decide
  obtain ⟨-, ⟨report, hreport, hsound⟩, hruns⟩ := plain_said_once hchecked ⟨.warn⟩
  have hsaid := hruns [rule] report List.mem_cons_self hreport _ (place_textDocument plainFont)
    plainFont rfl hfont rfl hmark hplain
  exact ⟨hchecked, hfont, rfl, hmark, hplain, hsize, report, hreport, hsound, hsaid.1 hsize⟩

def gapFont : Font := ⟨"NewYork-Bold", 35.5⟩

theorem gapFont_unsaid :
    gapFont.size.isFinite = true ∧ Text.Contains gapFont.name "NewYork" ∧
      (∀ c ∈ cuts, ¬ Text.Contains gapFont.name c.face) ∧
      cuts.countP (·.applies gapFont.size) = 0 ∧
      ∃ report, Runner.run ⟨.warn⟩ (.value (rawText gapFont)) [rule] Bundled.defaultConfigs =
        .ok report ∧ report.result.errors = [] ∧ report.result.saidOf name "t" = [] := by
  have hmark : Text.Contains gapFont.name "NewYork" := (Text.holds_iff _ _).mp rfl
  have hplain : ∀ c ∈ cuts, ¬ Text.Contains gapFont.name c.face := by
    simp only [← Text.holds_iff]
    decide
  obtain ⟨⟨report, hreport, hsound⟩, hruns⟩ := (isChecked_rawText gapFont).reports ⟨.warn⟩
  have hsaid := hruns [rule] report List.mem_cons_self hreport _ (place_textDocument gapFont)
    gapFont rfl rfl
  have hnone : complaints gapFont = [] := rfl
  exact ⟨rfl, hmark, hplain, rfl, report, hreport, hsound, hsaid.trans hnone⟩

/-! ## Cuts in the names of fonts -/

namespace Optical

def fontName (c : Optical) (weight : String) : String := "NewYork" ++ c.name ++ "-" ++ weight

/-- The face of the first cut stands in the name of the second. The face of the medium cut is that of
a weight, so it stands in none. -/
def IsFaceIn : Optical → Optical → Prop
  | small, c => c = small
  | medium, _ => False
  | large, c => c = large ∨ c = extraLarge
  | extraLarge, c => c = extraLarge

theorem contains_name_iff (needed c : Optical) :
    Text.Contains ("NewYork" ++ c.name) needed.cut.face ↔ needed.IsFaceIn c := by
  rw [← Text.holds_iff]
  cases needed <;> cases c <;> simp [IsFaceIn] <;> decide

theorem contains_fontName_iff (needed c : Optical) (weight : String) :
    Text.Contains (c.fontName weight) needed.cut.face ↔
      needed.IsFaceIn c ∨ Text.Contains weight needed.cut.face := by
  have hdash : '-' ∉ needed.cut.face.toList := by cases needed <;> decide
  rw [fontName, Text.contains_dash_iff hdash, contains_name_iff]

theorem contains_fontName_newYork (c : Optical) (weight : String) :
    Text.Contains (c.fontName weight) "NewYork" := by
  rw [fontName, Text.contains_dash_iff (by decide), ← Text.holds_iff]
  cases c <;> exact .inl rfl

/-- The face needed is that of this cut and stands in its name, or it stands neither in the name of
another cut nor in the weight. -/
def IsTold (needed c : Optical) (weight : String) : Prop :=
  match needed with
  | small => c = small ∨ ¬ Text.Contains weight "Small"
  | medium => Text.Contains weight "Regular" ↔ c = medium
  | large => c = large ∨ c ≠ extraLarge ∧ ¬ Text.Contains weight "Large"
  | extraLarge => c = extraLarge ∨ ¬ Text.Contains weight "ExtraLarge"

theorem isTold_iff (needed c : Optical) (weight : String) :
    needed.IsTold c weight ↔
      (¬ Text.Contains (c.fontName weight) needed.cut.face ↔ c ≠ needed) := by
  have hface : (cut small).face = "Small" ∧ (cut medium).face = "Regular" ∧
      (cut large).face = "Large" ∧ (cut extraLarge).face = "ExtraLarge" := ⟨rfl, rfl, rfl, rfl⟩
  rw [contains_fontName_iff]
  cases needed <;> cases c <;> simp [IsTold, IsFaceIn, hface]

end Optical

theorem complaints_fontName (c : Optical) (weight : String) {size : Float} {s : ℤ}
    (hsize : Number.wholeOf? size = some s) :
    (Text.Contains (c.fontName weight) (Optical.ofWhole s).cut.face →
      complaints ⟨c.fontName weight, size⟩ = []) ∧
    (¬ Text.Contains (c.fontName weight) (Optical.ofWhole s).cut.face →
      complaints ⟨c.fontName weight, size⟩ = [message family (Optical.ofWhole s).cut.label
        (Optical.ofWhole s).cut.range ⟨c.fontName weight, size⟩]) := by
  have hmissing : missing ⟨c.fontName weight, size⟩ = _ :=
    missing_eq (Optical.contains_fontName_newYork c weight) (value_of_wholeOf? hsize)
  rw [Optical.ofSize?_whole] at hmissing
  rw [← Text.holds_iff, complaints, hmissing]
  constructor
  · intro hface
    simp [hface]
  · intro hface
    simp [hface]

/-- A text in a cut of New York and of a whole size is told once to use the cut for this size, just
where the face of that cut stands nowhere in the name of its font. -/
theorem other_cut_said_iff {source : Document.Source} {configs : Keyed ConfigInput} {d : Document}
    (h : IsChecked source configs d) (r : Runner) :
    (∃ report, r.run source [rule] configs = .ok report ∧ report.result.errors = []) ∧
    ∀ given report, rule ∈ given → r.run source given configs = .ok report →
      ∀ e ∈ Tree.placesAll d.pages, ∀ (c : Optical) (weight : String) (size : Float) (s : ℤ),
        e.2.cls = "text" → textFont e.2 = .ok ⟨c.fontName weight, size⟩ →
        Number.wholeOf? size = some s →
        ((Optical.ofWhole s).IsTold c weight ↔
          (report.result.saidOf name e.2.id ≠ [] ↔ c ≠ Optical.ofWhole s)) ∧
        (Text.Contains (c.fontName weight) (Optical.ofWhole s).cut.face →
          report.result.saidOf name e.2.id = []) ∧
        (¬ Text.Contains (c.fontName weight) (Optical.ofWhole s).cut.face →
          report.result.saidOf name e.2.id = [message family (Optical.ofWhole s).cut.label
            (Optical.ofWhole s).cut.range ⟨c.fontName weight, size⟩]) := by
  obtain ⟨halone, hreports⟩ := h.reports r
  refine ⟨halone, ?_⟩
  intro given report hrule hreport e he c weight size s hcls hfont hsize
  rw [hreports given report hrule hreport e he _ hcls hfont]
  obtain ⟨hshown, hmissing⟩ := complaints_fontName c weight hsize
  refine ⟨?_, hshown, hmissing⟩
  have hsaid : complaints ⟨c.fontName weight, size⟩ ≠ [] ↔
      ¬ Text.Contains (c.fontName weight) (Optical.ofWhole s).cut.face := by
    constructor
    · intro hne hface
      exact hne (hshown hface)
    · intro hface
      rw [hmissing hface]
      simp
  rw [hsaid, Optical.isTold_iff]

def smallFont : Font := ⟨Optical.small.fontName "Bold", 28⟩

theorem other_cut_said_iff_smallFont :
    IsChecked (.value (rawText smallFont)) Bundled.defaultConfigs (textDocument smallFont) ∧
      textFont (textLayer smallFont) = .ok smallFont ∧ Number.wholeOf? smallFont.size = some 28 ∧
      ∃ report, Runner.run ⟨.warn⟩ (.value (rawText smallFont)) [rule] Bundled.defaultConfigs =
        .ok report ∧ report.result.errors = [] ∧ report.result.saidOf name "t" ≠ [] := by
  have hchecked := isChecked_rawText smallFont
  obtain ⟨⟨report, hreport, hsound⟩, hruns⟩ := other_cut_said_iff hchecked ⟨.warn⟩
  obtain ⟨htold, -, -⟩ := hruns [rule] report List.mem_cons_self hreport _
    (place_textDocument smallFont) .small "Bold" 28 28 rfl rfl rfl
  have hweight : (Optical.ofWhole 28).IsTold .small "Bold" := by
    have hregular : ¬ Text.Contains "Bold" "Regular" := by
      rw [← Text.holds_iff]
      decide
    exact ⟨fun h => absurd h hregular, fun h => by cases h⟩
  exact ⟨hchecked, rfl, rfl, report, hreport, hsound, (htold.mp hweight).mpr (by decide)⟩

def extraLargeFont : Font := ⟨Optical.extraLarge.fontName "Bold", 40⟩

/-- The face of the large cut stands in the name of the extra large one, which passes for it. -/
theorem extraLargeFont_unsaid :
    Number.wholeOf? extraLargeFont.size = some 40 ∧ Optical.ofWhole 40 = .large ∧
      ∃ report, Runner.run ⟨.warn⟩ (.value (rawText extraLargeFont)) [rule]
        Bundled.defaultConfigs = .ok report ∧
      report.result.errors = [] ∧ report.result.saidOf name "t" = [] := by
  obtain ⟨⟨report, hreport, hsound⟩, hruns⟩ := (isChecked_rawText extraLargeFont).reports ⟨.warn⟩
  have hsaid := hruns [rule] report List.mem_cons_self hreport _
    (place_textDocument extraLargeFont) extraLargeFont rfl rfl
  have hnone : complaints extraLargeFont = [] := rfl
  exact ⟨rfl, rfl, report, hreport, hsound, hsaid.trans hnone⟩

end OpticalSize.NewYork

end DesignLint
