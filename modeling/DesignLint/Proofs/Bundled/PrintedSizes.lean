import DesignLint.Proofs.Bundled.AllowedSizes
import DesignLint.Proofs.Number.ReadBack

/-! # Sizes as they are printed -/

namespace DesignLint

namespace Size

variable {w h : Float}

/-- A size in a text, with its measures as they stand in messages. -/
def printed (w h : Float) : String := Measure.ofFloat w ++ "x" ++ Measure.ofFloat h

theorem exists_parse_printed (hw : w.isNaN = false) (hh : h.isNaN = false) :
    ∃ s, parse (printed w h) = .ok s ∧ (s.width == w) = true ∧ (s.height == h) = true := by
  obtain ⟨hwchars, width, hwidth, hwbeq⟩ := Number.readsBack_ofFloat hw
  obtain ⟨hhchars, height, hheight, hhbeq⟩ := Number.readsBack_ofFloat hh
  have hsplit : (printed w h).toList.splitOn 'x' =
      [(Measure.ofFloat w).toList, (Measure.ofFloat h).toList] :=
    splitOn_eq_pair_iff.mpr ⟨by simp [printed], fun hmem => absurd (hwchars _ hmem) (by decide),
      fun hmem => absurd (hhchars _ hmem) (by decide)⟩
  refine ⟨⟨width, height⟩, ?_, hwbeq, hhbeq⟩
  rw [parse, hsplit]
  simp only [String.ofList_toList, Number.parseFloat?_of_numerals hwchars,
    Number.parseFloat?_of_numerals hhchars, hwidth, hheight]

end Size

namespace ArtboardSize

variable {source : Document.Source} {d : Document} {index : Index Layer}
  {configs : Keyed ConfigInput} {config : RuleConfig} {sizes : List String} {exceeding : Bool}
  {frame : Rect}

theorem fits_of_beq {s : Size} (hw : (s.width == frame.width) = true)
    (hh : (s.height == frame.height) = true) (exceeding : Bool) :
    fits exceeding frame s = true := by
  rw [fits, hw, Bool.true_and]
  cases exceeding with
  | true => exact decide_eq_true (FloatOrder.ge_of_beq (FloatOrder.beq_symm hh))
  | false => exact FloatOrder.beq_symm hh

theorem isAllowed_of_printed {l : List Size} (hw : frame.width.isNaN = false)
    (hh : frame.height.isNaN = false) (hl : sizes.mapM Size.parse = .ok l)
    (h : Size.printed frame.width frame.height ∈ sizes) (exceeding : Bool) :
    isAllowed exceeding l frame = true := by
  obtain ⟨s, hparse, hwidth, hheight⟩ := Size.exists_parse_printed hw hh
  obtain ⟨s', hs', hparse'⟩ := Outcome.exists_mem_of_mapM hl h
  cases hparse.symm.trans hparse'
  exact List.any_eq_true.mpr ⟨s, hs', fits_of_beq hwidth hheight exceeding⟩

theorem nodeId_ne_of_isAllowed {l : List Size} {a : Layer} {x : Context}
    (hx : Index.build (some d.pages) = .ok index) (ha : a ∈ index.nodes .artboard)
    (hallowed : isAllowed exceeding l a.frame = true) {v : Violation}
    (hv : v ∈ (index.nodes .artboard).flatMap fun b =>
      (Check.said (verdict exceeding l) b).map (x.violationOf b)) : v.nodeId ≠ a.id := by
  obtain ⟨b, hb, hv⟩ := List.mem_flatMap.mp hv
  obtain ⟨m, hm, rfl⟩ := List.mem_map.mp hv
  intro hid
  obtain rfl : b = a := List.inj_on_of_nodup_map (Index.nodup_ids_of_build hx .artboard) hb ha hid
  have hsaid : Check.said (verdict exceeding l) b = [] := by
    rw [Check.said, verdict, if_pos hallowed]
  rw [hsaid] at hm
  cases hm

/-! ## The law -/

/-- A size as it is printed is read as an equal one. So an artboard is not reported where its
printed size is one of those allowed. -/
theorem printed_size_is_allowed :
    (∀ w h : Float, w.isNaN = false → h.isNaN = false → ∃ s, Size.parse (Size.printed w h) = .ok s ∧
      (s.width == w) = true ∧ (s.height == h) = true) ∧
    (∀ (x : Float) (n : ℤ), FloatOrder.value x = some (n : ℚ) → Measure.ofFloat x = toString n) ∧
    ∀ (r : Runner) {source d index configs config sizes exceeding},
      Document.load source = .ok d → Index.build (some d.pages) = .ok index →
      IsConfigured configs config sizes exceeding → (∀ s ∈ sizes, Size.IsText s) →
      ∀ a ∈ index.nodes .artboard, a.frame.width.isNaN = false → a.frame.height.isNaN = false →
        Size.printed a.frame.width a.frame.height ∈ sizes →
        ∃ vs, r.Finds source configs rule vs [] ∧ ∀ v ∈ vs, v.nodeId ≠ a.id := by
  refine ⟨fun w h => Size.exists_parse_printed, ?_, ?_⟩
  · intro x n hvalue
    rw [Measure.ofFloat, Number.wholeOf?_of_value hvalue]
  · intro r source d index configs config sizes exceeding hd hx hconfig htexts a ha hw hh hprinted
    obtain ⟨l, hl⟩ := exists_mapM_parse htexts
    obtain ⟨x, -, hfinds⟩ := hconfig.finds (List.ne_nil_of_mem hprinted) hl hd hx r
    have hallowed := isAllowed_of_printed hw hh hl hprinted exceeding
    exact ⟨_, hfinds, fun v hv => nodeId_ne_of_isAllowed hx ha hallowed hv⟩

/-! ## One artboard -/

theorem exists_artboard_rawHome : ∃ d index a, Document.load (.value rawHome) = .ok d ∧
    Index.build (some d.pages) = .ok index ∧ a ∈ index.nodes .artboard ∧ a.id = "l" ∧
    a.frame.width.isNaN = false ∧ a.frame.height.isNaN = false ∧
    Size.printed a.frame.width a.frame.height = "100x20" :=
  ⟨_, _, _, rfl, rfl, .head _, rfl, rfl, rfl, rfl⟩

theorem printed_size_is_allowed_rawHome :
    (∃ s, Size.parse (Size.printed 37.5 812) = .ok s ∧ (s.width == 37.5) = true ∧
      (s.height == 812) = true) ∧
    Measure.ofFloat 375 = toString (375 : ℤ) ∧
    ∃ vs, Runner.Finds ⟨.warn⟩ (.value rawHome) (homeConfigs ["100x20", "375x812"] true) rule vs [] ∧
      ∀ v ∈ vs, v.nodeId ≠ "l" := by
  obtain ⟨hparse, hwhole, hallowed⟩ := printed_size_is_allowed
  refine ⟨hparse 37.5 812 rfl rfl, hwhole 375 375 (FloatOrder.value_of_wholeOf? rfl), ?_⟩
  obtain ⟨d, index, a, hd, hx, ha, hid, hw, hh, hprinted⟩ := exists_artboard_rawHome
  have htexts : ∀ s ∈ ["100x20", "375x812"], Size.IsText s := by simp [isText_home, isText_phone]
  rw [← hid]
  exact hallowed ⟨.warn⟩ hd hx (isConfigured_home ["100x20", "375x812"] true) htexts a ha hw hh
    (by rw [hprinted]; exact List.mem_cons_self)

end ArtboardSize

end DesignLint
