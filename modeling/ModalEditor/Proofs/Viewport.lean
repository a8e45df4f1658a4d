import ModalEditor.Viewport

namespace ModalEditor

/-!
# Which visible lines the reported range covers

The padded range of a scroll position holds every line that is visible there.
The range reported last may be another one, as long as neither of its ends is
farther from the padded range than the threshold.  Where the padding is whole it
makes up for that, if it is not smaller than the threshold.  Where the padding is
cut at an end of the text it does not, and as many lines as the threshold says can
be visible there without being in the range.
-/

/-- One use of a viewport.  The number of lines is that of the text at that
time. -/
inductive ViewportCall where
  | scroll (scrollTop height lineHeight : Float32) (totalLines : Nat)
  | reset

theorem LineRange.contains_iff {range : LineRange} {line : Nat} :
    range.contains line = true ↔ range.startLine ≤ line ∧ line ≤ range.endLine := by
  simp [contains]

namespace Geometry

/-- The visible area for the lines that a scroll position shows. -/
def ofVisible (visible : VisibleLines) (totalLines : Nat) : Geometry :=
  ⟨min visible.first (totalLines - 1), max (visible.last - visible.first) 1⟩

/-- Whether a line of a text is in the visible area. -/
def Shows (geometry : Geometry) (totalLines line : Nat) : Prop :=
  geometry.topLine ≤ line ∧ line < geometry.topLine + geometry.visibleLines ∧ line < totalLines

/-- Whether a line is one of those at an end of the text, as many as the threshold
says, where the visible area is too close to that end for the whole padding. -/
def IsAtCutEnd (geometry : Geometry) (config : ViewportConfig) (totalLines line : Nat) : Prop :=
  (geometry.topLine < config.bufferLines ∧ line < config.smallChangeThreshold) ∨
    (totalLines ≤ geometry.topLine + geometry.visibleLines + config.bufferLines ∧
      totalLines ≤ line + config.smallChangeThreshold)

variable {visible : VisibleLines} {totalLines line : Nat}

/-- A visible line is none above the first one, except that the last line of the
text stands in for lines past it. -/
theorem Shows.first_le (h : (ofVisible visible totalLines).Shows totalLines line) :
    visible.first ≤ line ∨ totalLines - 1 ≤ line := by
  have hTop : min visible.first (totalLines - 1) ≤ line := h.1
  omega

theorem Shows.le_last (h : (ofVisible visible totalLines).Shows totalLines line) :
    line ≤ visible.last := by
  have hBottom : line < min visible.first (totalLines - 1) +
    max (visible.last - visible.first) 1 := h.2.1
  have hOrder := visible.first_le_last
  omega

/-- An area that ends inside the text reaches the last line it shows. -/
theorem last_le_of_lt
    (h : (ofVisible visible totalLines).topLine + (ofVisible visible totalLines).visibleLines <
      totalLines) :
    visible.last ≤ (ofVisible visible totalLines).topLine +
      (ofVisible visible totalLines).visibleLines := by
  simp only [ofVisible] at h ⊢
  omega

end Geometry

namespace Viewport

variable {viewport : Viewport} {config : ViewportConfig} {visible : VisibleLines}
  {range : LineRange} {totalLines line : Nat}

/-! ## The padded range and ranges close to it -/

/-- The padded range holds every visible line. -/
theorem contains_paddedRange (config : ViewportConfig)
    (hShows : (Geometry.ofVisible visible totalLines).Shows totalLines line) :
    (paddedRange config visible totalLines).contains line = true := by
  have hFirst := hShows.first_le
  have hLast := hShows.le_last
  have hText := hShows.2.2
  rw [LineRange.contains_iff]
  constructor
  · show min (visible.first - config.bufferLines) (totalLines - 1) ≤ line
    omega
  · show line ≤ min (visible.last + config.bufferLines) (totalLines - 1)
    omega

theorem lineDistance_le_iff {a b distance : Nat} :
    lineDistance a b ≤ distance ↔ a ≤ b + distance ∧ b ≤ a + distance := by
  unfold lineDistance
  omega

/-- Whether a range of a text is so close to the padded one that it stays the one
reported last. -/
structure IsClose (config : ViewportConfig) (visible : VisibleLines) (range : LineRange) :
    Prop where
  start : lineDistance range.startLine
    (paddedRange config visible range.totalLines).startLine ≤ config.smallChangeThreshold
  stop : lineDistance range.endLine
    (paddedRange config visible range.totalLines).endLine ≤ config.smallChangeThreshold

/-- A range stays exactly if it belongs to as many lines and is close. -/
theorem isLargeChange_eq_false_iff :
    isLargeChange config (paddedRange config visible totalLines) (some range) = false ↔
      range.totalLines = totalLines ∧ IsClose config visible range := by
  simp only [isLargeChange, Bool.or_eq_false_iff, bne_eq_false_iff_eq, decide_eq_false_iff_not,
    Nat.not_lt]
  constructor
  · rintro ⟨⟨hTotal, hStart⟩, hStop⟩
    change range.totalLines = totalLines at hTotal
    subst hTotal
    exact ⟨rfl, hStart, hStop⟩
  · rintro ⟨rfl, hStart, hStop⟩
    exact ⟨⟨rfl, hStart⟩, hStop⟩

/-- A close range starts early enough for every visible line that is not at the cut
start, if the padding is not smaller than the threshold. -/
theorem IsClose.startLine_le (h : IsClose config visible range)
    (hStart : range.startLine < range.totalLines)
    (hPadding : config.smallChangeThreshold ≤ config.bufferLines)
    (hShows : (Geometry.ofVisible visible range.totalLines).Shows range.totalLines line)
    (hCut : (Geometry.ofVisible visible range.totalLines).topLine < config.bufferLines →
      config.smallChangeThreshold ≤ line) :
    range.startLine ≤ line := by
  have hNear : range.startLine ≤
      visible.first - config.bufferLines + config.smallChangeThreshold :=
    Nat.le_trans (lineDistance_le_iff.mp h.start).1 (Nat.add_le_add_right (Nat.min_le_left _ _) _)
  rcases hShows.first_le with hFirst | hLast
  · by_cases hWhole : config.bufferLines ≤ visible.first
    · omega
    · have hTop : (Geometry.ofVisible visible range.totalLines).topLine ≤ visible.first :=
        Nat.min_le_left _ _
      have hFar := hCut (by omega)
      omega
  · omega

/-- A close range ends late enough for every visible line that is not at the cut
end, if the padding is not smaller than the threshold. -/
theorem IsClose.le_endLine (h : IsClose config visible range)
    (hPadding : config.smallChangeThreshold ≤ config.bufferLines)
    (hShows : (Geometry.ofVisible visible range.totalLines).Shows range.totalLines line)
    (hCut : range.totalLines ≤ (Geometry.ofVisible visible range.totalLines).topLine +
        (Geometry.ofVisible visible range.totalLines).visibleLines + config.bufferLines →
      line + config.smallChangeThreshold < range.totalLines) :
    line ≤ range.endLine := by
  have hNear : min (visible.last + config.bufferLines) (range.totalLines - 1) ≤
      range.endLine + config.smallChangeThreshold := (lineDistance_le_iff.mp h.stop).2
  have hLast := hShows.le_last
  by_cases hWhole : range.totalLines ≤ (Geometry.ofVisible visible range.totalLines).topLine +
      (Geometry.ofVisible visible range.totalLines).visibleLines + config.bufferLines
  · have hFar := hCut hWhole
    omega
  · have hReached : visible.last ≤ (Geometry.ofVisible visible range.totalLines).topLine +
        (Geometry.ofVisible visible range.totalLines).visibleLines :=
      Geometry.last_le_of_lt (by omega)
    omega

/-- A close range holds every visible line that is not at a cut end, if the padding
is not smaller than the threshold. -/
theorem IsClose.contains (h : IsClose config visible range)
    (hStart : range.startLine < range.totalLines)
    (hPadding : config.smallChangeThreshold ≤ config.bufferLines)
    (hShows : (Geometry.ofVisible visible range.totalLines).Shows range.totalLines line)
    (hCut : ¬(Geometry.ofVisible visible range.totalLines).IsAtCutEnd config
      range.totalLines line) :
    range.contains line = true := by
  rw [Geometry.IsAtCutEnd, not_or, not_and, not_and, Nat.not_lt, Nat.not_le] at hCut
  obtain ⟨hCutStart, hCutStop⟩ := hCut
  exact LineRange.contains_iff.mpr
    ⟨h.startLine_le hStart hPadding hShows hCutStart, h.le_endLine hPadding hShows hCutStop⟩

/-! ## Calls -/

/-- Whether the range reported last starts on a line of its text. -/
def StartsInText (viewport : Viewport) : Prop :=
  ∀ range, viewport.range = some range → range.startLine < range.totalLines

/-- A large change is reported. -/
theorem observe_of_isLargeChange_eq_true
    (h : isLargeChange viewport.config
      (paddedRange viewport.config visible (max totalLines 1)) viewport.range = true) :
    viewport.observe visible totalLines =
      ({ viewport with
          geometry := some (Geometry.ofVisible visible (max totalLines 1))
          range := some (paddedRange viewport.config visible (max totalLines 1)) },
        some (paddedRange viewport.config visible (max totalLines 1))) := by
  rw [observe, if_pos h]
  rfl

/-- Any other change only leaves the visible area. -/
theorem observe_of_isLargeChange_eq_false
    (h : isLargeChange viewport.config
      (paddedRange viewport.config visible (max totalLines 1)) viewport.range = false) :
    viewport.observe visible totalLines =
      ({ viewport with
          geometry := some (Geometry.ofVisible visible (max totalLines 1)) }, none) := by
  rw [observe, if_neg (Bool.eq_false_iff.mp h)]
  rfl

/-- After a scroll position was noted, the padded range was reported or the one
reported before is close to it. -/
theorem observe_cases (viewport : Viewport) (visible : VisibleLines) (totalLines : Nat) :
    let next := viewport.observe visible totalLines
    let padded := paddedRange viewport.config visible (max totalLines 1)
    next.1.geometry = some (Geometry.ofVisible visible (max totalLines 1)) ∧
      next.1.config = viewport.config ∧
      ((next.1.range = some padded ∧ next.2 = some padded) ∨
        ∃ range, viewport.range = some range ∧ next.1.range = some range ∧ next.2 = none ∧
          range.totalLines = max totalLines 1 ∧ IsClose viewport.config visible range) := by
  cases hLarge : isLargeChange viewport.config
      (paddedRange viewport.config visible (max totalLines 1)) viewport.range with
  | true =>
      rw [observe_of_isLargeChange_eq_true hLarge]
      exact ⟨rfl, rfl, Or.inl ⟨rfl, rfl⟩⟩
  | false =>
      rw [observe_of_isLargeChange_eq_false hLarge]
      cases hRange : viewport.range with
      | none =>
          rw [hRange] at hLarge
          cases hLarge
      | some range =>
          rw [hRange] at hLarge
          obtain ⟨hTotal, hClose⟩ := isLargeChange_eq_false_iff.mp hLarge
          exact ⟨rfl, rfl, Or.inr ⟨range, rfl, rfl, rfl, hTotal, hClose⟩⟩

theorem StartsInText.observe (h : viewport.StartsInText) (visible : VisibleLines)
    (totalLines : Nat) : (viewport.observe visible totalLines).1.StartsInText := by
  intro range hRange
  rcases (viewport.observe_cases visible totalLines).2.2 with
    ⟨hPadded, -⟩ | ⟨previous, hPrevious, hKept, -⟩
  · obtain rfl := Option.some.inj (hPadded.symm.trans hRange)
    show min (visible.first - viewport.config.bufferLines) (max totalLines 1 - 1) <
      max totalLines 1
    omega
  · obtain rfl := Option.some.inj (hKept.symm.trans hRange)
    exact h previous hPrevious

/-- A scroll position that makes sense is noted, any other is ignored. -/
theorem scroll_of_ofPixels?_eq_some {scrollTop height lineHeight : Float32}
    (h : VisibleLines.ofPixels? scrollTop height lineHeight = some visible) (viewport : Viewport)
    (totalLines : Nat) :
    viewport.scroll scrollTop height lineHeight totalLines =
      viewport.observe visible totalLines := by
  unfold scroll
  rw [h]

theorem scroll_of_ofPixels?_eq_none {scrollTop height lineHeight : Float32}
    (h : VisibleLines.ofPixels? scrollTop height lineHeight = none) (viewport : Viewport)
    (totalLines : Nat) :
    viewport.scroll scrollTop height lineHeight totalLines = (viewport, none) := by
  unfold scroll
  rw [h]

/-- One call. -/
def call (viewport : Viewport) : ViewportCall → Viewport
  | .scroll scrollTop height lineHeight totalLines =>
      (viewport.scroll scrollTop height lineHeight totalLines).1
  | .reset => viewport.reset

/-- Calls in order. -/
def callAll (viewport : Viewport) (calls : List ViewportCall) : Viewport :=
  calls.foldl call viewport

/-- What every call keeps: the settings, and where the reported range starts. -/
theorem StartsInText.call (h : viewport.StartsInText) (call : ViewportCall) :
    (viewport.call call).StartsInText ∧ (viewport.call call).config = viewport.config := by
  cases call with
  | scroll scrollTop height lineHeight totalLines =>
      simp only [Viewport.call]
      cases hPixels : VisibleLines.ofPixels? scrollTop height lineHeight with
      | none =>
          rw [scroll_of_ofPixels?_eq_none hPixels]
          exact ⟨h, rfl⟩
      | some visible =>
          rw [scroll_of_ofPixels?_eq_some hPixels]
          exact ⟨h.observe visible totalLines, (viewport.observe_cases visible totalLines).2.1⟩
  | reset =>
      refine ⟨?_, rfl⟩
      intro range hRange
      cases hRange

theorem StartsInText.callAll (h : viewport.StartsInText) (calls : List ViewportCall) :
    (viewport.callAll calls).StartsInText ∧ (viewport.callAll calls).config = viewport.config := by
  induction calls generalizing viewport with
  | nil => exact ⟨h, rfl⟩
  | cons call calls ih =>
      obtain ⟨hNext, hConfig⟩ := h.call call
      obtain ⟨hLast, hSame⟩ := ih hNext
      exact ⟨hLast, hSame.trans hConfig⟩

theorem startsInText_ofConfig (config : ViewportConfig) : (ofConfig config).StartsInText := by
  intro range hRange
  cases hRange

/-! ## What is covered -/

/-- After any calls, a scroll position that is not ignored leaves a reported range.
If it was reported just now it holds every visible line.  Otherwise it holds every
visible line but those at a cut end, if the padding is not smaller than the
threshold. -/
theorem visible_lines_covered_except_at_cut_ends (config : ViewportConfig)
    (hPadding : config.smallChangeThreshold ≤ config.bufferLines) (calls : List ViewportCall)
    (scrollTop height lineHeight : Float32) (totalLines : Nat)
    (hValid : (VisibleLines.ofPixels? scrollTop height lineHeight).isSome = true) :
    let next := ((ofConfig config).callAll calls).scroll scrollTop height lineHeight totalLines
    ∃ geometry range, next.1.geometry = some geometry ∧ next.1.range = some range ∧
      ∀ line, geometry.Shows (max totalLines 1) line →
        (next.2.isSome = true → range.contains line = true) ∧
          (range.contains line = true ∨ geometry.IsAtCutEnd config (max totalLines 1) line) := by
  obtain ⟨visible, hVisible⟩ := Option.isSome_iff_exists.mp hValid
  rw [scroll_of_ofPixels?_eq_some hVisible]
  obtain ⟨hStarts, hConfig⟩ := (startsInText_ofConfig config).callAll calls
  generalize (ofConfig config).callAll calls = viewport at hStarts hConfig
  change viewport.config = config at hConfig
  subst hConfig
  obtain ⟨hGeometry, -, hPadded | ⟨range, hRange, hKept, hReported, hTotal, hClose⟩⟩ :=
    viewport.observe_cases visible totalLines
  · refine ⟨_, _, hGeometry, hPadded.1, ?_⟩
    intro line hShows
    have hContains := contains_paddedRange viewport.config hShows
    exact ⟨fun _ => hContains, Or.inl hContains⟩
  · refine ⟨_, range, hGeometry, hKept, ?_⟩
    intro line hShows
    rw [hReported]
    refine ⟨(nomatch ·), ?_⟩
    rw [← hTotal] at hShows ⊢
    by_cases hCut : (Geometry.ofVisible visible range.totalLines).IsAtCutEnd viewport.config
        range.totalLines line
    · exact Or.inr hCut
    · exact Or.inl (hClose.contains (hStarts range hRange) hPadding hShows hCut)

/-- A small move from line 20 to line 22 is not reported, and the range of before
covers the lines that are visible then. -/
theorem visible_lines_covered_after_small_move :
    ViewportConfig.default.smallChangeThreshold ≤ ViewportConfig.default.bufferLines ∧
      (VisibleLines.ofPixels? 440.0 300.0 20.0).isSome = true ∧
      let viewport := (ofConfig ViewportConfig.default).callAll [.scroll 400.0 300.0 20.0 1000]
      let next := viewport.scroll 440.0 300.0 20.0 1000
      next.2 = none ∧ next.1.range = some ⟨10, 45, 1000⟩ ∧
        ∀ line, 22 ≤ line → line < 37 → (⟨10, 45, 1000⟩ : LineRange).contains line = true := by
  refine ⟨by decide, by decide, by decide, by decide, fun line hFirst hLast => ?_⟩
  obtain ⟨geometry, range, hGeometry, hRange, hCovered⟩ :=
    visible_lines_covered_except_at_cut_ends ViewportConfig.default (by decide)
      [.scroll 400.0 300.0 20.0 1000] 440.0 300.0 20.0 1000 (by decide)
  have hArea : some geometry = some ⟨22, 15⟩ := hGeometry.symm.trans (by decide)
  have hLines : some range = some ⟨10, 45, 1000⟩ := hRange.symm.trans (by decide)
  cases hArea
  cases hLines
  rcases (hCovered line ⟨hFirst, hLast, by omega⟩).2 with hContains | hCut
  · exact hContains
  · simp only [Geometry.IsAtCutEnd, ViewportConfig.default] at hCut
    omega

/-- Between the ends of a text of 16 lines the range that is reported at its end
stays, and none of the five lines visible at its start is in that range. -/
theorem jump_between_ends_is_not_covered :
    let viewport := (ofConfig ViewportConfig.default).callAll
      [.scroll 15.0 5.0 1.0 16, .scroll 0.0 5.0 1.0 16]
    viewport.geometry = some ⟨0, 5⟩ ∧ viewport.range = some ⟨5, 15, 16⟩ ∧
      ∀ line < 5, (⟨5, 15, 16⟩ : LineRange).contains line = false := by
  decide

/-- Every positive threshold lets a jump between the ends of some text go
unreported, after which the range holds no visible line. -/
theorem exists_observe_uncovered (hThreshold : 0 < config.smallChangeThreshold) :
    ∃ (before now : VisibleLines) (totalLines : Nat),
      let next := (((ofConfig config).observe before totalLines).1.observe now totalLines).1
      ∃ geometry range, next.geometry = some geometry ∧ next.range = some range ∧
        geometry.Shows totalLines 0 ∧
        ∀ line, geometry.Shows totalLines line → range.contains line = false := by
  -- The area jumps from the last line of the text to as many lines at its start as
  -- the threshold says; the text is so short that all lines below are padding.
  generalize hLast : config.bufferLines + config.smallChangeThreshold = last
  refine ⟨VisibleLines.ofEnds last last, VisibleLines.ofEnds 0 config.smallChangeThreshold,
    last + 1, ?_⟩
  have hPadded : paddedRange (ofConfig config).config (VisibleLines.ofEnds last last)
      (max (last + 1) 1) = ⟨config.smallChangeThreshold, last, last + 1⟩ := by
    simp only [ofConfig, paddedRange, VisibleLines.ofEnds, LineRange.mk.injEq]
    omega
  have hBefore : ((ofConfig config).observe (VisibleLines.ofEnds last last) (last + 1)).1 =
      ⟨config, some ⟨config.smallChangeThreshold, last, last + 1⟩,
        some (Geometry.ofVisible (VisibleLines.ofEnds last last) (max (last + 1) 1))⟩ := by
    rw [observe_of_isLargeChange_eq_true rfl, hPadded]
    rfl
  have hClose : IsClose config (VisibleLines.ofEnds 0 config.smallChangeThreshold)
      ⟨config.smallChangeThreshold, last, last + 1⟩ := by
    constructor <;> rw [lineDistance_le_iff] <;> simp only [paddedRange, VisibleLines.ofEnds] <;>
      omega
  have hTotal : last + 1 = max (last + 1) 1 := by omega
  have hSmall := isLargeChange_eq_false_iff.mpr ⟨hTotal, hClose⟩
  dsimp only
  rw [hBefore, observe_of_isLargeChange_eq_false hSmall]
  refine ⟨_, _, rfl, rfl, ?_, ?_⟩
  · simp only [Geometry.Shows, Geometry.ofVisible, VisibleLines.ofEnds]
    omega
  · intro line hShows
    have hLine : line < config.smallChangeThreshold := by
      simp only [Geometry.Shows, Geometry.ofVisible, VisibleLines.ofEnds] at hShows
      omega
    have hOutside : ¬config.smallChangeThreshold ≤ line := by omega
    simp [LineRange.contains, hOutside]

end Viewport

end ModalEditor
